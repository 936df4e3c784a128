import OperatorKit.Url.Host

/-!
URLs in their parts, and their text. Everything in the parts is percent-encoded as it is in the text.
-/

namespace OperatorKit

/-- A path is a list of segments after slashes, or a text that is not cut up. -/
inductive UrlPath where
  | segments (parts : List String)
  | plain (text : String)
deriving DecidableEq, Repr

structure Authority where
  /-- Empty if there is none. -/
  username : String
  /-- Empty if there is none. -/
  password : String
  host : Option Host
  /-- Only if it is not the scheme's own. -/
  port : Option Nat
deriving DecidableEq, Repr

structure Url where
  scheme : String
  authority : Option Authority
  path : UrlPath
  query : Option String
  fragment : Option String
deriving DecidableEq, Repr

/-- What a scheme says about the rest. -/
inductive SchemeKind where
  | hosted
  | file
  | other
deriving DecidableEq, Repr

def SchemeKind.isSpecial (kind : SchemeKind) : Bool :=
  kind ≠ .other

namespace Url

def schemePort? (scheme : String) : Option Nat :=
  match scheme with
  | "http" | "ws" => some 80
  | "https" | "wss" => some 443
  | "ftp" => some 21
  | _ => none

def schemeKind (scheme : String) : SchemeKind :=
  if (schemePort? scheme).isSome then .hosted else if scheme = "file" then .file else .other

def host? (url : Url) : Option Host :=
  url.authority.bind (·.host)

/-- The port that is written, or else that of the scheme. -/
def port? (url : Url) : Option Nat :=
  (url.authority.bind (·.port)).or (schemePort? url.scheme)

/-- Scheme, host and port. -/
def origin (url : Url) : String × Option Host × Option Nat :=
  (url.scheme, url.host?, url.port?)

end Url

namespace UrlPath

def text : UrlPath → String
  | segments parts => String.join (parts.map ("/" ++ ·))
  | plain text => text

/-- A path without authority must not look like one. -/
def guarded (path : UrlPath) : String :=
  match path with
  | segments ("" :: _ :: _) => "/." ++ path.text
  | _ => path.text

end UrlPath

namespace Authority

def userinfo (a : Authority) : String :=
  if a.username = "" ∧ a.password = "" then ""
  else if a.password = "" then a.username ++ "@"
  else a.username ++ ":" ++ a.password ++ "@"

def text (a : Authority) : String :=
  let port := match a.port with
    | none => ""
    | some n => ":" ++ Digits.decimal n
  "//" ++ a.userinfo ++ (a.host.map Host.text).getD "" ++ port

end Authority

namespace Url

def text (url : Url) : String :=
  let main := match url.authority with
    | some a => a.text ++ url.path.text
    | none => url.path.guarded
  let query := match url.query with
    | none => ""
    | some q => "?" ++ q
  let fragment := match url.fragment with
    | none => ""
    | some f => "#" ++ f
  url.scheme ++ ":" ++ main ++ query ++ fragment

end Url

end OperatorKit
