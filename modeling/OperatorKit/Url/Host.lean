import OperatorKit.Url.Domain
import OperatorKit.Url.Ipv6

/-! Hosts. Only a URL of a scheme with known hosts has its host looked at as a domain or address. -/

namespace OperatorKit

inductive Host where
  | domain (name : String)
  | ipv4 (address : Nat)
  | ipv6 (words : List Nat)
deriving DecidableEq, Repr

namespace Host

def text : Host → String
  | domain name => name
  | ipv4 address => Ipv4.text address
  | ipv6 words => "[" ++ Ipv6.text words ++ "]"

/-- The inside of brackets that stand around a text. -/
def bracketed (text : List Char) : Except UrlError Host :=
  match text.reverse with
  | ']' :: rest => (Ipv6.parse rest.reverse).map ipv6
  | _ => .error .invalidIpv6

/-- The host of a URL of a scheme with known hosts. -/
def parse (text : List Char) : Except UrlError Host :=
  match text with
  | '[' :: rest => bracketed rest
  | _ =>
    match Domain.ofBytes (Percent.decode (Utf8.encode (String.ofList text))) with
    | .error e => .error e
    | .ok name =>
      if name.isEmpty then .error .emptyHost
      else if Ipv4.looksLike name then (Ipv4.parse name).map ipv4
      else .ok (domain (String.ofList name))

def isForbidden (c : Char) : Bool :=
  "\x00\t\n\r #/:<>?@[\\]^|".toList.contains c

/-- The host of any other URL, which stays as it is written. -/
def parsePlain (text : List Char) : Except UrlError Host :=
  match text with
  | '[' :: rest => bracketed rest
  | _ =>
    if text.any isForbidden then .error .forbiddenHostCharacter
    else .ok (domain (Percent.encode Percent.isControl text))

end Host

end OperatorKit
