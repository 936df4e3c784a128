import OperatorKit.Yaml.Pen
import OperatorKit.Yaml.Scalar

/-!
The text of a JSON value in YAML's block style. Mappings and sequences indent by two columns, save a
sequence under a key, which stays at the key's column; empty ones are written with brackets. No line
is folded.
-/

namespace OperatorKit.Yaml

/-- Reals are written as in JSON, but a positive exponent has no sign. -/
def realFormat : RealFormat := ⟨-4, 16, false⟩

def numberText : Number → List Char
  | .real x => realFormat.render x
  | n => n.text

def upperHex (n digits : Nat) : List Char :=
  let ds := (Nat.toDigits 16 n).map Char.toUpper
  List.replicate (digits - ds.length) '0' ++ ds

def doubleQuotedChar (c : Char) : List Char :=
  if isPrintable c && !isBreak c && c ≠ '"' && c ≠ '\\' then [c]
  else
    '\\' :: match c.toNat with
      | 0x00 => ['0']
      | 0x07 => ['a']
      | 0x08 => ['b']
      | 0x09 => ['t']
      | 0x0a => ['n']
      | 0x0b => ['v']
      | 0x0c => ['f']
      | 0x0d => ['r']
      | 0x1b => ['e']
      | 0x22 => ['"']
      | 0x5c => ['\\']
      | 0x85 => ['N']
      | 0xa0 => ['_']
      | 0x2028 => ['L']
      | 0x2029 => ['P']
      | n => if n ≤ 0xff then 'x' :: upperHex n 2 else if n ≤ 0xffff then 'u' :: upperHex n 4
        else 'U' :: upperHex n 8

/-- Lines of text, each indented when its first character comes. -/
def lines (indent : Nat) (char : Char → List Char) (fresh : Bool) (pen : Pen) : List Char → Pen × Bool
  | [] => (pen, fresh)
  | c :: rest =>
    if isBreak c then lines indent char true { pen.endLine c with indented := true } rest
    else
      let pen := if fresh then pen.indentTo indent else pen
      lines indent char false { pen.putAll (char c) with indented := false } rest

/-- The marks after the bar of a literal: the indentation, where the text does not show it, and what
becomes of the line ends at its end. -/
def literalMarks (cs : List Char) : List Char :=
  let indentation := if cs.head?.any (fun c => c = ' ' || isBreak c) then ['2'] else []
  let chomping := match cs.reverse with
    | c :: rest =>
      if !isBreak c then ['-']
      else match rest with
        | [] => ['+']
        | d :: _ => if isBreak d then ['+'] else []
    | [] => ['-']
  indentation ++ chomping

def plainScalar (cs : List Char) (pen : Pen) : Pen :=
  let pen := if !pen.blank && !cs.isEmpty then pen.put ' ' else pen
  (pen.putAll cs).written

def singleQuotedScalar (indent : Nat) (cs : List Char) (pen : Pen) : Pen :=
  let pen := pen.indicator ['\''] true false false
  let (pen, fresh) := lines indent (fun c => if c = '\'' then ['\'', '\''] else [c]) false pen cs
  let pen := if fresh then pen.indentTo indent else pen
  (pen.indicator ['\''] false false false).written

def doubleQuotedScalar (cs : List Char) (pen : Pen) : Pen :=
  let pen := pen.indicator ['"'] true false false
  let pen := pen.putAll (cs.flatMap doubleQuotedChar)
  (pen.indicator ['"'] false false false).written

def literalScalar (indent : Nat) (cs : List Char) (pen : Pen) : Pen :=
  let pen := (pen.indicator ['|'] true false false).putAll (literalMarks cs)
  let pen := { pen.endLine '\n' with blank := true, indented := true }
  (lines indent (fun c => [c]) true pen cs).1

/-- A text, whose further lines stand at a column. -/
def text (indent : Nat) (s : String) (pen : Pen) : Pen :=
  match styleOf s with
  | .plain => plainScalar s.toList pen
  | .singleQuoted => singleQuotedScalar indent s.toList pen
  | .doubleQuoted => doubleQuotedScalar s.toList pen
  | .literal => literalScalar indent s.toList pen

/-- A key of at most 128 bytes on one line is followed by its colon; any other is marked. -/
def isSimpleKey (key : String) : Bool :=
  key.utf8ByteSize ≤ 128 && !(allowance key.toList).multiline

def key (indent : Nat) (k : String) (pen : Pen) : Pen :=
  let pen := pen.indentTo indent
  if isSimpleKey k then (text (indent + 2) k pen).indicator [':'] false false false
  else
    let pen := text (indent + 2) k (pen.indicator ['?'] true false true)
    (pen.indentTo indent).indicator [':'] true false true

def bracketed (opening closing : Char) (pen : Pen) : Pen :=
  (pen.indicator [opening] true true false).indicator [closing] false false false

mutual

/-- A value inside something that stands at a column, if it stands inside something. -/
def value (indent : Option Nat) (underKey : Bool) (pen : Pen) : Json → Pen
  | .null => plainScalar ['n', 'u', 'l', 'l'] pen
  | .bool b => plainScalar (if b then ['t', 'r', 'u', 'e'] else ['f', 'a', 'l', 's', 'e']) pen
  | .number n => plainScalar (numberText n) pen
  | .string s => text (indent.elim 2 (· + 2)) s pen
  | .array vs =>
    if vs.isEmpty then bracketed '[' ']' pen
    else
      let inner := indent.elim 0 fun i => if underKey && !pen.indented then i else i + 2
      items inner pen vs
  | .object fields =>
    if fields.isEmpty then bracketed '{' '}' pen
    else members (indent.elim 0 (· + 2)) pen fields

def items (indent : Nat) (pen : Pen) : List Json → Pen
  | [] => pen
  | v :: rest =>
    let pen := (pen.indentTo indent).indicator ['-'] true false true
    items indent (value (some indent) false pen v) rest

def members (indent : Nat) (pen : Pen) : List (String × Json) → Pen
  | [] => pen
  | (k, v) :: rest => members indent (value (some indent) true (key indent k pen) v) rest

end

def render (v : Json) : String :=
  ((value none false .start v).indentTo 0).text

end OperatorKit.Yaml
