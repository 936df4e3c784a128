import OperatorKit.Json.Basic

/-!
The shortest decimal that rounds to a binary64. A finite number is `m · 2 ^ q`; the reals that round
to it form an interval, closed when `m` is even. For one digit, two digits and so on the two
neighbours of the number on that decimal grid are tried in exact arithmetic; the first grid with a
neighbour in the interval gives the answer, the nearer neighbour if both are in it.
-/

namespace OperatorKit

/-- The number `coefficient · 10 ^ exponent`. -/
structure Decimal where
  coefficient : Nat
  exponent : Int
deriving DecidableEq, Repr

namespace Decimal

/-- Moves the zeros at the end of the coefficient into the exponent. -/
def trim (d : Decimal) : Nat → Decimal
  | 0 => d
  | n + 1 =>
    if d.coefficient ≠ 0 ∧ d.coefficient % 10 = 0 then
      trim ⟨d.coefficient / 10, d.exponent + 1⟩ n
    else d

end Decimal

namespace Binary64

def negative (x : Binary64) : Bool :=
  x.bits.toNat / Nat.pow 2 63 = 1

def biasedExponent (x : Binary64) : Nat :=
  x.bits.toNat / Nat.pow 2 52 % Nat.pow 2 11

def fraction (x : Binary64) : Nat :=
  x.bits.toNat % Nat.pow 2 52

/-- The `m` of `m · 2 ^ q`. -/
def significand (x : Binary64) : Nat :=
  if x.biasedExponent = 0 then x.fraction else Nat.pow 2 52 + x.fraction

/-- The `q` of `m · 2 ^ q`. -/
def scale (x : Binary64) : Int :=
  if x.biasedExponent = 0 then -1074 else (x.biasedExponent : Int) - 1075

/-- The greatest `k` with `10 ^ k` at most the number, which is not zero. -/
def magnitude (x : Binary64) : Int :=
  if x.scale ≥ 0 then
    ((Nat.toDigits 10 (x.significand * Nat.pow 2 x.scale.toNat)).length : Int) - 1
  else
    let den := Nat.pow 2 (-x.scale).toNat
    if x.significand ≥ den then
      ((Nat.toDigits 10 (x.significand / den)).length : Int) - 1
    else
      match (List.range 400).find? (fun j => x.significand * Nat.pow 10 (j + 1) ≥ den) with
      | some j => -((j : Int) + 1)
      | none => 0

/-- The nearest point of the grid of step `10 ^ g` that rounds to the number, if one does. Numbers
are compared in quarters of the last binary place, so that the ends of the interval are whole. -/
def onGrid (x : Binary64) (g : Int) : Option Nat :=
  let m := x.significand
  let unit := x.scale - 2
  let a := Nat.pow 2 unit.toNat * Nat.pow 10 (-g).toNat
  let b := Nat.pow 2 (-unit).toNat * Nat.pow 10 g.toNat
  let value := 4 * m * a
  let low := (if x.fraction = 0 ∧ x.biasedExponent > 1 then 4 * m - 1 else 4 * m - 2) * a
  let high := (4 * m + 2) * a
  let inside (d : Nat) : Bool :=
    if m % 2 = 0 then low ≤ d * b ∧ d * b ≤ high else low < d * b ∧ d * b < high
  let below := value / b
  let above := below + 1
  match inside below, inside above with
  | true, true =>
    let down := value - below * b
    let up := above * b - value
    some (if down < up then below else if up < down then above
      else if below % 2 = 0 then below else above)
  | true, false => some below
  | false, true => some above
  | false, false => none

/-- The shortest decimal that rounds to the number, sign apart. -/
def shortest (x : Binary64) : Decimal :=
  if x.significand = 0 then ⟨0, 0⟩
  else
    let k := x.magnitude
    match (List.range 17).findSome? (fun (n : Nat) =>
        (x.onGrid (k - n)).map fun d => (⟨d, k - n⟩ : Decimal)) with
    | some d => d.trim 17
    | none => ⟨0, 0⟩

end Binary64

/-- How a real is written: without an exponent when the point falls at least `lowest` and at most
`highest` places right of the first digit's left edge, else with one, whose `+` is written or not. -/
structure RealFormat where
  lowest : Int
  highest : Int
  plus : Bool

namespace RealFormat

/-- A real always shows a point or an exponent. -/
def render (format : RealFormat) (x : Binary64) : List Char :=
  let sign := if x.negative then ['-'] else []
  let d := x.shortest
  let digits := Nat.toDigits 10 d.coefficient
  let point : Int := digits.length + d.exponent
  if d.coefficient = 0 then sign ++ ['0', '.', '0']
  else if 0 ≤ d.exponent ∧ point ≤ format.highest then
    sign ++ digits ++ List.replicate d.exponent.toNat '0' ++ ['.', '0']
  else if 0 < point ∧ point ≤ format.highest then
    sign ++ digits.take point.toNat ++ '.' :: digits.drop point.toNat
  else if format.lowest ≤ point ∧ point ≤ 0 then
    sign ++ ['0', '.'] ++ List.replicate (-point).toNat '0' ++ digits
  else
    let fraction := match digits.drop 1 with
      | [] => []
      | rest => '.' :: rest
    let power := point - 1
    let powerSign := if power < 0 then ['-'] else if format.plus then ['+'] else []
    sign ++ digits.take 1 ++ fraction ++ 'e' :: powerSign ++ Nat.toDigits 10 power.natAbs

end RealFormat

end OperatorKit
