import OperatorKit.Json.Text
import OperatorKit.Text.Digits

/-!
How a text is written as a YAML scalar. A text that would read as null, a truth value or a number is
quoted; otherwise the plainest style is taken that its characters allow.
-/

namespace OperatorKit.Yaml

inductive Style where
  | plain
  | singleQuoted
  | doubleQuoted
  | literal
deriving DecidableEq, Repr

def isBreak (c : Char) : Bool :=
  c = '\n' || c = '\r' || c = '\x85' || c = '\u2028' || c = '\u2029'

def isBlank (c : Char) : Bool :=
  c = ' ' || c = '\t' || c = '\x00' || isBreak c

/-- Characters that are written as they are: of the controls only the line feed, and nothing above
the basic plane. -/
def isPrintable (c : Char) : Bool :=
  let n := c.toNat
  n = 0x0a || (0x20 ≤ n && n ≤ 0x7e) || (0xa0 ≤ n && n ≤ 0xfffd && n ≠ 0xfeff)

def anyPair (p : Char → Char → Bool) (cs : List Char) : Bool :=
  (cs.zip cs.tail).any fun (a, b) => p a b

def openers : List Char :=
  ['#', ',', '[', ']', '{', '}', '&', '*', '!', '|', '>', '\'', '"', '%', '@', '\x60']

/-- A colon before a blank and a hash after one are read as indicators inside a scalar. -/
def innerIndicator : List Char → Bool
  | [] => false
  | c :: rest =>
    match rest with
    | [] => c = ':'
    | d :: _ => (c = ':' && isBlank d) || (isBlank c && d = '#') || innerIndicator rest

def openingIndicator (cs : List Char) : Bool :=
  ['-', '-', '-'].isPrefixOf cs || ['.', '.', '.'].isPrefixOf cs ||
  match cs with
  | [] => false
  | c :: rest => openers.contains c || ((c = '?' || c = '-') && rest.head?.all isBlank)

def hasIndicator (cs : List Char) : Bool :=
  openingIndicator cs || innerIndicator cs

structure Allowance where
  multiline : Bool
  plain : Bool
  singleQuoted : Bool
  literal : Bool

def allowance (cs : List Char) : Allowance :=
  let edge (p : Char → Bool) : Bool := cs.head?.any p || cs.getLast?.any p
  let multiline := cs.any isBreak
  let breakSpace := anyPair (fun a b => isBreak a && b = ' ') cs
  let special := anyPair (fun a b => a = ' ' && isBreak b) cs || !cs.all isPrintable
  { multiline
    plain := !(edge (· = ' ') || multiline || special || hasIndicator cs)
    singleQuoted := !(breakSpace || special)
    literal := !(cs.isEmpty || cs.getLast? = some ' ' || special) }

def isDigits (cs : List Char) : Bool :=
  !cs.isEmpty && cs.all Char.isDigit

def unsigned : List Char → List Char
  | '+' :: rest | '-' :: rest => rest
  | cs => cs

/-- A zero and more digits: read as a text, though other readers take it for a number. -/
def isPaddedDigits (cs : List Char) : Bool :=
  match unsigned cs with
  | '0' :: rest => isDigits rest
  | _ => false

/-- The number that digits write, if there are any. -/
def number? (base : Nat) (cs : List Char) : Option Nat :=
  if cs.isEmpty then none else Digits.number? base cs

def marked (cs : List Char) : Option Nat :=
  match cs with
  | '0' :: 'x' :: rest => number? 16 rest
  | '0' :: 'o' :: rest => number? 8 rest
  | '0' :: 'b' :: rest => number? 2 rest
  | _ => none

/-- An integer of at most 128 bits with a radix mark. -/
def isMarkedInteger (cs : List Char) : Bool :=
  match cs with
  | '-' :: rest => (marked rest).any (· ≤ Nat.pow 2 127)
  | '+' :: rest => (marked rest).any (· < Nat.pow 2 128)
  | _ => (marked cs).any (· < Nat.pow 2 128)

/-- The digits after an exponent mark, with their sign. -/
def exponent (cs : List Char) : Option Int :=
  match cs with
  | [] => some 0
  | c :: rest =>
    if c = 'e' ∨ c = 'E' then
      match rest with
      | '-' :: digits => (number? 10 digits).map fun n => -(n : Int)
      | '+' :: digits => (number? 10 digits).map (·)
      | digits => (number? 10 digits).map (·)
    else none

/-- Whether `n · 10 ^ e` rounds to a finite binary64. -/
def isFinite (n : Nat) (e : Int) : Bool :=
  let size : Int := (Nat.toDigits 10 n).length + e
  n = 0 || size < 300 ||
    (size < 400 && decide (n * Nat.pow 10 e.toNat < (Nat.pow 2 1024 - Nat.pow 2 970) * Nat.pow 10 (-e).toNat))

/-- A decimal without its sign: digits with or without a point among them, and an exponent. -/
def isDecimal (cs : List Char) : Bool :=
  let whole := cs.takeWhile Char.isDigit
  let rest := cs.dropWhile Char.isDigit
  let (fraction, rest) := match rest with
    | '.' :: more => (more.takeWhile Char.isDigit, more.dropWhile Char.isDigit)
    | _ => ([], rest)
  match number? 10 (whole ++ fraction), exponent rest with
  | some n, some e => isFinite n (e - fraction.length)
  | _, _ => false

/-- A decimal with its sign, an infinity, or no number at all. -/
def isReal (cs : List Char) : Bool :=
  isDecimal (unsigned cs) ||
  [['.', 'i', 'n', 'f'], ['.', 'I', 'n', 'f'], ['.', 'I', 'N', 'F']].contains (unsigned cs) ||
  [['.', 'n', 'a', 'n'], ['.', 'N', 'a', 'N'], ['.', 'N', 'A', 'N']].contains cs

def words : List String :=
  ["null", "Null", "NULL", "~", "true", "True", "TRUE", "false", "False", "FALSE"]

/-- A text that is not read back as a text unless it is quoted. -/
def isAmbiguous (s : String) : Bool :=
  let cs := s.toList
  cs.isEmpty || words.contains s || isMarkedInteger cs || isPaddedDigits cs || isReal cs

/-- The style of a text, where no line may end in a key that is followed by its colon. -/
def styleOf (s : String) : Style :=
  let allowed := allowance s.toList
  if s.toList.contains '\n' then
    if allowed.literal then .literal else .doubleQuoted
  else if !isAmbiguous s && allowed.plain then .plain
  else if allowed.singleQuoted then .singleQuoted
  else .doubleQuoted

end OperatorKit.Yaml
