/-!
Punycode: a label outside ASCII as ASCII. The ASCII characters come first, and then, for each other
character in the order of its code, how far to move on to the place where it is put.
-/

namespace OperatorKit.Punycode

def digit (n : Nat) : Char :=
  if n < 26 then Char.ofNat (97 + n) else Char.ofNat (22 + n)

def value? (c : Char) : Option Nat :=
  if 'a' ≤ c ∧ c ≤ 'z' then some (c.toNat - 97)
  else if 'A' ≤ c ∧ c ≤ 'Z' then some (c.toNat - 65)
  else if '0' ≤ c ∧ c ≤ '9' then some (c.toNat - 22)
  else none

/-- The value from which a digit is followed by another. -/
def threshold (position bias : Nat) : Nat :=
  min 26 (max 1 (position - bias))

theorem threshold_pos (position bias : Nat) : 0 < threshold position bias := by
  unfold threshold; omega

/-- Divides down to the steady range and counts the steps. -/
def settle (delta k : Nat) : Nat :=
  if 455 < delta then settle (delta / 35) (k + 36) else k + 36 * delta / (delta + 38)
termination_by delta
decreasing_by omega

/-- The bias after a delta, when there are `count` characters. -/
def adapt (delta count : Nat) (first : Bool) : Nat :=
  let delta := if first then delta / 700 else delta / 2
  settle (delta + delta / count) 0

/-- A number in digits of growing weight. -/
def digits (position bias n : Nat) : List Char :=
  let t := threshold position bias
  if n < t then [digit n]
  else digit (t + (n - t) % (36 - t)) :: digits (position + 36) bias ((n - t) / (36 - t))
termination_by n
decreasing_by
  have := threshold_pos position bias
  have : (n - threshold position bias) / (36 - threshold position bias) ≤
    n - threshold position bias := Nat.div_le_self _ _
  omega

/-- How far an encoding has come. -/
structure Writing where
  delta : Nat
  bias : Nat
  handled : Nat
  first : Bool
  output : List Char

/-- Writes every place of one character. -/
def write (code : Nat) (label : List Nat) (s : Writing) : Writing :=
  label.foldl (fun s c =>
    if c < code then { s with delta := s.delta + 1 }
    else if c = code then
      { delta := 0, bias := adapt s.delta (s.handled + 1) s.first, handled := s.handled + 1,
        first := false, output := s.output ++ digits 36 s.bias s.delta }
    else s) s

/-- Writes the characters in their order, from a code on. -/
def writeAll (label : List Nat) (code : Nat) : List Nat → Writing → Writing
  | [], s => s
  | c :: rest, s =>
    let s := write c label { s with delta := s.delta + (c - code) * (s.handled + 1) }
    writeAll label (c + 1) rest { s with delta := s.delta + 1 }

def encode (label : List Char) : List Char :=
  let basic := label.filter fun c => c.toNat < 0x80
  let codes := label.map Char.toNat
  let others := ((codes.filter (0x80 ≤ ·)).mergeSort).eraseReps
  let written := writeAll codes 0x80 others
    { delta := 0, bias := 72, handled := basic.length, first := true, output := [] }
  (if basic.isEmpty then [] else basic ++ ['-']) ++ written.output

/-- How far a decoding has come: within a number, `start` is the place it began at. -/
structure Reading where
  output : List Char
  code : Nat
  place : Nat
  start : Nat
  bias : Nat
  weight : Nat
  position : Nat

/-- Puts the character that a finished number names. -/
def Reading.put (s : Reading) : Option Reading := do
  let size := s.output.length + 1
  let code := s.code + s.place / size
  guard code.isValidChar
  let place := s.place % size
  return {
    output := s.output.insertIdx place (Char.ofNat code), code, place := place + 1,
    start := place + 1, bias := adapt (s.place - s.start) size (s.start = 0), weight := 1,
    position := 36 }

def readAll (s : Reading) : List Char → Option (List Char)
  | [] => if s.position = 36 then some s.output else none
  | c :: rest =>
    match value? c with
    | none => none
    | some d =>
      let t := threshold s.position s.bias
      let s := { s with place := s.place + d * s.weight }
      if d < t then
        match s.put with
        | none => none
        | some s => readAll s rest
      else readAll { s with weight := s.weight * (36 - t), position := s.position + 36 } rest

/-- The ASCII characters before the last hyphen, and what follows it. -/
def splitLast (label : List Char) : List Char × List Char :=
  let tail := label.reverse.takeWhile (· ≠ '-')
  let front := label.reverse.dropWhile (· ≠ '-')
  (front.tail.reverse, tail.reverse)

def decode? (label : List Char) : Option (List Char) :=
  let (basic, rest) := splitLast label
  if basic.all fun c => c.toNat < 0x80 then
    readAll ⟨basic, 0x80, 0, 0, 72, 1, 36⟩ rest
  else none

end OperatorKit.Punycode
