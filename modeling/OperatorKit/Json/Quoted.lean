import OperatorKit.Json.Fault
import OperatorKit.Text.Digits

/-!
Strings as they stand between quotes. A `\u` escape gives sixteen bits; characters above them are
written as a pair of surrogates, and neither half may stand alone.
-/

namespace OperatorKit.Json

def hex? : Symbol → Option Nat
  | .char c => Digits.value? c
  | .stray _ => none

def isBlank (s : Symbol) : Bool :=
  s = .char ' ' || s = .char '\n' || s = .char '\t' || s = .char '\r'

def skipBlank (input : List Symbol) : List Symbol :=
  input.dropWhile isBlank

/-- The four hexadecimal digits of an escape; four bytes are taken before they are looked at. -/
def fourHex : Reader Nat := fun input =>
  let refused : Except Fault (Nat × List Symbol) :=
    if 4 ≤ Symbol.widths input then .error ⟨.invalidEscape, input, 4⟩
    else .error (.before .endInString [])
  match input with
  | a :: b :: c :: d :: rest =>
    match hex? a, hex? b, hex? c, hex? d with
    | some a, some b, some c, some d => .ok (((a * 16 + b) * 16 + c) * 16 + d, rest)
    | _, _, _, _ => refused
  | _ => refused

def isTrailing (n : Nat) : Bool := 0xDC00 ≤ n && n ≤ 0xDFFF

def isLeading (n : Nat) : Bool := 0xD800 ≤ n && n ≤ 0xDBFF

/-- A symbol that must follow the leading half of a pair. -/
def pairMark (mark : Char) (input : List Symbol) : Except Fault (List Symbol) :=
  match input with
  | [] => .error (.before .endInString [])
  | s :: rest => if s = .char mark then .ok rest else .error (.next .unfinishedSurrogate input)

/-- The character of a `\u` escape. -/
def unicodeEscape : Reader Char := fun input =>
  match fourHex input with
  | .error e => .error e
  | .ok (n, rest) =>
    if isTrailing n then .error (.before .loneSurrogate rest)
    else if isLeading n then
      match pairMark '\\' rest with
      | .error e => .error e
      | .ok rest =>
        match pairMark 'u' rest with
        | .error e => .error e
        | .ok rest =>
          match fourHex rest with
          | .error e => .error e
          | .ok (m, rest) =>
            if isTrailing m then
              .ok (Char.ofNat ((n - 0xD800) * 0x400 + (m - 0xDC00) + 0x10000), rest)
            else .error (.before .loneSurrogate rest)
    else .ok (Char.ofNat n, rest)

/-- The character an escape stands for, after its backslash. -/
def escaped : Reader Char := fun input =>
  match input with
  | [] => .error (.before .endInString [])
  | s :: rest =>
    match s with
    | .char '"' => .ok ('"', rest)
    | .char '\\' => .ok ('\\', rest)
    | .char '/' => .ok ('/', rest)
    | .char 'b' => .ok ('\x08', rest)
    | .char 'f' => .ok ('\x0c', rest)
    | .char 'n' => .ok ('\n', rest)
    | .char 'r' => .ok ('\r', rest)
    | .char 't' => .ok ('\t', rest)
    | .char 'u' => unicodeEscape rest
    | _ => .error (.next .invalidEscape input)

/-- The characters up to the closing quote. A stray byte is held against the string once it has
ended, and the fault points at the first one: `spoilt` is the text after it. -/
def quotedChars (spoilt : Option (List Symbol)) : Nat → Reader (List Char)
  | 0, input => .error (.before .endInString input)
  | fuel + 1, input =>
    match input with
    | [] => .error (.before .endInString [])
    | .stray _ :: rest => quotedChars (spoilt <|> some rest) fuel rest
    | .char c :: rest =>
      if c = '"' then
        match spoilt with
        | none => .ok ([], rest)
        | some after => .error (.before .invalidCodePoint after)
      else if c = '\\' then
        match escaped rest with
        | .error e => .error e
        | .ok (c, rest) =>
          match quotedChars spoilt fuel rest with
          | .error e => .error e
          | .ok (cs, rest) => .ok (c :: cs, rest)
      else if c.toNat < 32 then .error (.next .controlCharacter input)
      else
        match quotedChars spoilt fuel rest with
        | .error e => .error e
        | .ok (cs, rest) => .ok (c :: cs, rest)

def stringBody : Reader String := fun input =>
  match quotedChars none (input.length + 1) input with
  | .error e => .error e
  | .ok (cs, rest) => .ok (String.ofList cs, rest)

/-- The rest of a fixed word. -/
def word (expected : List Char) (input : List Symbol) : Except Fault (List Symbol) :=
  match expected, input with
  | [], input => .ok input
  | _ :: _, [] => .error (.before .endInValue [])
  | c :: cs, s :: rest =>
    if s = .char c then word cs rest else .error (.next .expectedWord input)

end OperatorKit.Json
