import OperatorKit.Text.Digits
import OperatorKit.Text.Split
import OperatorKit.Url.Error

/-!
IPv4 addresses as they are written in URLs: up to four numbers, each decimal, octal after `0`, or
hexadecimal after `0x`, of which the last fills all bytes that are left.
-/

namespace OperatorKit.Ipv4

def number? : List Char → Option Nat
  | [] => none
  | '0' :: 'x' :: rest => Digits.number? 16 rest
  | '0' :: 'X' :: rest => Digits.number? 16 rest
  | '0' :: c :: rest => Digits.number? 8 (c :: rest)
  | text => Digits.number? 10 text

def parts (domain : List Char) : List (List Char) :=
  Text.cutAt (· = '.') domain

/-- The parts, of which an empty last one does not count. -/
def labels (domain : List Char) : List (List Char) :=
  match (parts domain).reverse with
  | [] :: rest => rest.reverse
  | _ => parts domain

/-- Whether a domain must be an address. -/
def looksLike (domain : List Char) : Bool :=
  match (labels domain).getLast? with
  | none => false
  | some last => (!last.isEmpty && last.all Char.isDigit) || (number? last).isSome

/-- Numbers before the last fill one byte each from the front. -/
def assemble : Nat → List Nat → Option Nat
  | _, [] => none
  | free, [last] => if last < Nat.pow 256 free then some last else none
  | free, n :: rest => do
    guard (n < 256)
    return n * Nat.pow 256 (free - 1) + (← assemble (free - 1) rest)

def parse (domain : List Char) : Except UrlError Nat :=
  match (labels domain).mapM number? with
  | some numbers =>
    if numbers.length ≤ 4 then
      match assemble 4 numbers with
      | some n => .ok n
      | none => .error .invalidIpv4
    else .error .invalidIpv4
  | none => .error .invalidIpv4

def text (address : Nat) : String :=
  let byte (n : Nat) : String := Digits.decimal (address / Nat.pow 256 n % 256)
  byte 3 ++ "." ++ byte 2 ++ "." ++ byte 1 ++ "." ++ byte 0

end OperatorKit.Ipv4
