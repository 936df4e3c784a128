import OperatorKit.Json.Fault
import OperatorKit.Decimal.Reading

/-!
Numerals. Digits are gathered in 64 bits; digits that do not fit are left out, those before the
point raising the exponent. An integer in range stays an integer, and so does its negative, save
that minus zero is a real; every other numeral is a real.
-/

namespace OperatorKit.Json

def digit? : Symbol → Option Nat
  | .char c => if c.isDigit then some (c.toNat - '0'.toNat) else none
  | .stray _ => none

def digitValue (s : Symbol) : Nat :=
  (digit? s).getD 0

/-- Digits gathered while they fit: the number they make and how many are left. -/
def gather (limit : Nat) (n : Nat) : List Symbol → Nat × Nat
  | [] => (n, 0)
  | d :: rest =>
    if n * 10 + digitValue d ≤ limit then gather limit (n * 10 + digitValue d) rest
    else (n, rest.length + 1)

def maxUnsigned : Nat := Nat.pow 2 64 - 1

def maxExponent : Nat := Nat.pow 2 31 - 1

def isDigit (s : Symbol) : Bool := (digit? s).isSome

def leadingDigits (input : List Symbol) : List Symbol := input.takeWhile isDigit

def afterDigits (input : List Symbol) : List Symbol := input.dropWhile isDigit

def real (positive : Bool) (significand : Nat) (exponent : Int) : Reader Number := fun rest =>
  match Binary64.ofParts positive significand exponent with
  | some x => .ok (.real x, rest)
  | none => .error (.before .numberOutOfRange rest)

def exponentSign : List Symbol → Bool × List Symbol
  | .char '+' :: rest => (true, rest)
  | .char '-' :: rest => (false, rest)
  | rest => (true, rest)

/-- The part after the exponent mark. An exponent beyond 31 bits makes zero of zero and of anything
divided by it, and is out of range otherwise. -/
def exponentPart (positive : Bool) (significand : Nat) (exponent : Int) : Reader Number :=
  fun input =>
    let (upward, digits) := exponentSign input
    match digits with
    | [] => .error (.before .endInValue [])
    | d :: _ =>
      if isDigit d then
        let (power, left) := gather maxExponent 0 (leadingDigits digits)
        if left = 0 then
          real positive significand (if upward then exponent + power else exponent - power)
            (afterDigits digits)
        else if significand ≠ 0 ∧ upward then
          .error (.before .numberOutOfRange (digits.drop ((leadingDigits digits).length - left + 1)))
        else real positive 0 0 (afterDigits digits)
      else .error (.next .invalidNumber digits)

def fractionPart (positive : Bool) (significand : Nat) (exponent : Int) : Reader Number :=
  fun input =>
    let digits := leadingDigits input
    if digits.isEmpty then
      match input with
      | [] => .error (.before .endInValue [])
      | _ => .error (.next .invalidNumber input)
    else
      let (significand, left) := gather maxUnsigned significand digits
      let exponent := exponent - (digits.length - left : Nat)
      match afterDigits input with
      | .char 'e' :: rest | .char 'E' :: rest => exponentPart positive significand exponent rest
      | rest => real positive significand exponent rest

def integer (positive : Bool) (n : Nat) : Number :=
  if positive then .integer n
  else if n = 0 ∨ Nat.pow 2 63 < n then .real (Binary64.ofFloat (-n.toUInt64.toFloat))
  else .integer (-n)

def numeral (positive : Bool) : Reader Number := fun input =>
  match input with
  | [] => .error (.before .endInValue [])
  | first :: more =>
    if isDigit first then
      if first = .char '0' ∧ (more.head?.any isDigit) then .error (.next .invalidNumber more)
      else
        let (significand, left) := gather maxUnsigned 0 (leadingDigits input)
        match afterDigits input with
        | .char '.' :: rest => fractionPart positive significand left rest
        | .char 'e' :: rest | .char 'E' :: rest => exponentPart positive significand left rest
        | rest =>
          if left = 0 then .ok (integer positive significand, rest)
          else real positive significand left rest
    else .error (.next .invalidNumber input)

end OperatorKit.Json
