import OperatorKit.Json.Basic
import OperatorKit.Decimal.Shortest

/-!
The text of a JSON value, on one line or with each member on a line of its own. Both layouts differ
only in white space between the tokens.
-/

namespace OperatorKit

namespace Json

/-- Reals are positional from `1e-5` up to `1e16` and otherwise carry a signed exponent. -/
def realFormat : RealFormat := ⟨-4, 16, true⟩

def hexDigit (n : Nat) : Char :=
  if n < 10 then Char.ofNat (48 + n) else Char.ofNat (87 + n)

/-- A quote, a backslash and the controls below the blank are escaped, all else stands for itself. -/
def escape (c : Char) : List Char :=
  if c = '"' then ['\\', '"']
  else if c = '\\' then ['\\', '\\']
  else if c = '\n' then ['\\', 'n']
  else if c = '\r' then ['\\', 'r']
  else if c = '\t' then ['\\', 't']
  else if c = '\x08' then ['\\', 'b']
  else if c = '\x0c' then ['\\', 'f']
  else if c.toNat < 32 then ['\\', 'u', '0', '0', hexDigit (c.toNat / 16), hexDigit (c.toNat % 16)]
  else [c]

def quoted (s : String) : List Char :=
  '"' :: (s.toList.flatMap escape ++ ['"'])

end Json

def Number.text : Number → List Char
  | .integer (.ofNat n) => Nat.toDigits 10 n
  | .integer (.negSucc n) => '-' :: Nat.toDigits 10 (n + 1)
  | .real x => Json.realFormat.render x

namespace Json

/-- The white space between tokens: columns per level of nesting, or everything on one line. -/
inductive Layout where
  | line
  | indented (step : Nat)

namespace Layout

def newline (layout : Layout) (level : Nat) : List Char :=
  match layout with
  | line => []
  | indented step => '\n' :: List.replicate (step * level) ' '

def colon : Layout → List Char
  | line => [':']
  | indented _ => [':', ' ']

end Layout

mutual

/-- The text of a value that stands at a level of nesting. -/
def chars (layout : Layout) (level : Nat) : Json → List Char
  | .null => ['n', 'u', 'l', 'l']
  | .bool true => ['t', 'r', 'u', 'e']
  | .bool false => ['f', 'a', 'l', 's', 'e']
  | .number n => n.text
  | .string s => quoted s
  | .array [] => ['[', ']']
  | .array (v :: rest) =>
    '[' :: (layout.newline (level + 1) ++ chars layout (level + 1) v
      ++ charsItems layout (level + 1) rest ++ layout.newline level ++ [']'])
  | .object [] => ['{', '}']
  | .object ((key, v) :: rest) =>
    '{' :: (layout.newline (level + 1) ++ quoted key ++ layout.colon ++ chars layout (level + 1) v
      ++ charsFields layout (level + 1) rest ++ layout.newline level ++ ['}'])

def charsItems (layout : Layout) (level : Nat) : List Json → List Char
  | [] => []
  | v :: rest =>
    ',' :: (layout.newline level ++ chars layout level v ++ charsItems layout level rest)

def charsFields (layout : Layout) (level : Nat) : List (String × Json) → List Char
  | [] => []
  | (key, v) :: rest =>
    ',' :: (layout.newline level ++ quoted key ++ layout.colon ++ chars layout level v
      ++ charsFields layout level rest)

end

/-- The text on one line, without a blank. -/
def compact (v : Json) : String :=
  String.ofList (v.chars .line 0)

/-- The text indented by two columns a level, without a line end after it. -/
def pretty (v : Json) : String :=
  String.ofList (v.chars (.indented 2) 0)

end Json

end OperatorKit
