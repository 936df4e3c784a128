import OperatorKit.Text.Digits
import OperatorKit.Text.Split

/-!
Tables over code points, written as text. A run is `first.count.step.value` in hexadecimal: `count`
code points from `first` on, `step` apart. A sequence is `code=a.b.c`.
-/

namespace OperatorKit.Unicode

structure Run where
  first : Nat
  count : Nat
  step : Nat
  value : Nat
deriving DecidableEq, Repr

namespace Run

/-- How far a character is from the first of the run it belongs to. -/
def offset? (r : Run) (c : Char) : Option Nat :=
  let d := c.toNat - r.first
  if r.first ≤ c.toNat ∧ d % r.step = 0 ∧ d / r.step < r.count then some d else none

def covers (table : List Run) (c : Char) : Bool :=
  table.any fun r => (r.offset? c).isSome

def value? (table : List Run) (c : Char) : Option Nat :=
  (table.find? fun r => (r.offset? c).isSome).map (·.value)

/-- The character as far from the value of its run as it is itself from the first. -/
def shift? (table : List Run) (c : Char) : Option Char :=
  table.findSome? fun r => (r.offset? c).map fun d => Char.ofNat (r.value + d)

def number (digits : List Char) : Nat :=
  (Digits.number? 16 digits).getD 0

def ofText? (text : List Char) : Option Run :=
  match (Text.cutAt (· = '.') text).map number with
  | [first, count, step, value] => some ⟨first, count, step, value⟩
  | _ => none

def table (rows : List String) : List Run :=
  rows.flatMap fun row => (Text.cutAt (· = ' ') row.toList).filterMap ofText?

def sequence? (text : List Char) : Option (Nat × List Char) :=
  match Text.cutAt (· = '=') text with
  | [code, chars] =>
    some (number code, (Text.cutAt (· = '.') chars).map fun c => Char.ofNat (number c))
  | _ => none

def sequences (rows : List String) : List (Nat × List Char) :=
  rows.flatMap fun row => (Text.cutAt (· = ' ') row.toList).filterMap sequence?

end Run

end OperatorKit.Unicode
