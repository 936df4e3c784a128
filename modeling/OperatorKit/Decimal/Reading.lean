import OperatorKit.Json.Basic

/-!
A decimal `significand · 10 ^ exponent` read as a binary64 in at most one rounding of the
significand and one of each product or quotient with a power of ten.
-/

namespace OperatorKit.Binary64

def ofFloat (x : Float) : Binary64 :=
  ⟨x.toBits⟩

def toFloat (x : Binary64) : Float :=
  Float.ofBits x.bits

/-- The binary64 nearest to `10 ^ n`, for `n` at most 308. -/
def powerOfTen (n : Nat) : Float :=
  Float.ofScientific 1 false n

/-- Scales by a power of ten, dividing by `10 ^ 308` as long as the power is out of the table.
There is no answer when the number is too large. -/
def scaled (x : Float) (exponent : Int) : Nat → Option Float
  | 0 => some x
  | steps + 1 =>
    if exponent.natAbs ≤ 308 then
      if 0 ≤ exponent then
        let y := x * powerOfTen exponent.natAbs
        if y.isInf then none else some y
      else some (x / powerOfTen exponent.natAbs)
    else if x == 0.0 then some x
    else if 0 ≤ exponent then none
    else scaled (x / powerOfTen 308) (exponent + 308) steps

/-- The number `significand · 10 ^ exponent`, or nothing when it is out of range. Four divisions by
`10 ^ 308` bring every significand of 64 bits to zero. -/
def ofParts (positive : Bool) (significand : Nat) (exponent : Int) : Option Binary64 :=
  (scaled significand.toUInt64.toFloat exponent 5).map fun x =>
    ofFloat (if positive then x else -x)

end OperatorKit.Binary64
