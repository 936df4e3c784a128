/-! Numbers in digits, decimal or of another base up to sixteen. -/

namespace OperatorKit.Digits

/-- The value of a digit in either case. -/
def value? (c : Char) : Option Nat :=
  if '0' ≤ c ∧ c ≤ '9' then some (c.toNat - 48)
  else if 'a' ≤ c ∧ c ≤ 'f' then some (c.toNat - 87)
  else if 'A' ≤ c ∧ c ≤ 'F' then some (c.toNat - 55)
  else none

/-- The digit of a value, in upper case. -/
def upper (n : Nat) : Char :=
  if n < 10 then Char.ofNat (48 + n) else Char.ofNat (55 + n)

/-- The number that digits write, where no digit is zero. -/
def number? (base : Nat) (text : List Char) : Option Nat :=
  text.foldl (fun n c => return (← n) * base + (← (value? c).filter (· < base))) (some 0)

def decimal (n : Nat) : String :=
  String.ofList (Nat.toDigits 10 n)

/-- Hexadecimal digits in lower case. -/
def hexadecimal (n : Nat) : String :=
  String.ofList (Nat.toDigits 16 n)

end OperatorKit.Digits
