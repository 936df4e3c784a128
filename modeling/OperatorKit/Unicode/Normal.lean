import OperatorKit.Unicode.Decomposition

/-!
The composed normal form (NFC). A text is decomposed, marks are put in the order of their combining
classes, and what can be composed is composed again.
-/

namespace OperatorKit.Unicode

def combiningClass (c : Char) : Nat :=
  (Run.value? combiningClasses c).getD 0

def isMark (c : Char) : Bool :=
  Run.covers markRuns c

def hangulParts (c : Char) : List Char :=
  let n := c.toNat - 0xAC00
  let parts := [Char.ofNat (0x1100 + n / 588), Char.ofNat (0x1161 + n % 588 / 28)]
  if n % 28 = 0 then parts else parts ++ [Char.ofNat (0x11A7 + n % 28)]

def decompose (c : Char) : List Char :=
  if c.toNat < 0x80 then [c]
  else if 0xAC00 ≤ c.toNat ∧ c.toNat ≤ 0xD7A3 then hangulParts c
  else (decompositions.lookup c.toNat).getD [c]

/-- Puts a character before marks, past those of a lower class. -/
def insertMark (c : Char) : List Char → List Char
  | [] => [c]
  | d :: rest =>
    if 0 < combiningClass d ∧ combiningClass d < combiningClass c then d :: insertMark c rest
    else c :: d :: rest

def reorder (text : List Char) : List Char :=
  text.foldr insertMark []

/-- The syllable of a leading part and a vowel, or of an open syllable and a trailing part. -/
def composeHangul? (a b : Char) : Option Char :=
  if 0x1100 ≤ a.toNat ∧ a.toNat < 0x1113 ∧ 0x1161 ≤ b.toNat ∧ b.toNat < 0x1176 then
    some (Char.ofNat (0xAC00 + ((a.toNat - 0x1100) * 21 + (b.toNat - 0x1161)) * 28))
  else if 0xAC00 ≤ a.toNat ∧ a.toNat ≤ 0xD7A3 ∧ (a.toNat - 0xAC00) % 28 = 0 ∧
      0x11A7 < b.toNat ∧ b.toNat < 0x11C3 then
    some (Char.ofNat (a.toNat + (b.toNat - 0x11A7)))
  else none

def compose? (a b : Char) : Option Char :=
  match composeHangul? a b with
  | some c => some c
  | none => (compositions.find? (·.2 = [a, b])).map fun pair => Char.ofNat pair.1

/-- Composes a starter with what follows it, where `marks` could not be composed with it. -/
def composeFrom (starter : Char) (marks : List Char) : List Char → List Char
  | [] => starter :: marks
  | c :: rest =>
    let blocked := match marks.getLast? with
      | none => false
      | some m => combiningClass c ≤ combiningClass m
    match if blocked then none else compose? starter c with
    | some composed => composeFrom composed marks rest
    | none =>
      if combiningClass c = 0 then starter :: marks ++ composeFrom c [] rest
      else composeFrom starter (marks ++ [c]) rest

def compose (text : List Char) : List Char :=
  match text.dropWhile (combiningClass · ≠ 0) with
  | [] => text
  | starter :: rest => text.takeWhile (combiningClass · ≠ 0) ++ composeFrom starter [] rest

def normal (text : List Char) : List Char :=
  if text.all (·.toNat < 0x80) then text else compose (reorder (text.flatMap decompose))

end OperatorKit.Unicode
