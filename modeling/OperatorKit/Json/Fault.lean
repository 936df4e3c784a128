import OperatorKit.Json.Text
import OperatorKit.Text.Digits
import OperatorKit.Text.Symbol

/-!
What can be wrong with a JSON text, and where. Causes are named here and worded in one place.
-/

namespace OperatorKit.Json

/-- What stands where something else is expected. -/
inductive Found where
  | null
  | bool (value : Bool)
  | number (value : Number)
  | string (value : String)
  | sequence
  | map
deriving DecidableEq, Repr

/-- A well-formed value that is not of the expected kind. -/
inductive Mismatch where
  | invalidType (found : Found) (expected : String)
  | invalidLength (length : Nat) (expected : String)
  | missingField (name : String)
  | duplicateField (name : String)
deriving DecidableEq, Repr

inductive Cause where
  | endInValue
  | endInString
  | endInList
  | endInObject
  | expectedValue
  | expectedWord
  | expectedColon
  | expectedListCommaOrEnd
  | expectedObjectCommaOrEnd
  | keyNotString
  | trailingComma
  | trailingCharacters
  | invalidNumber
  | numberOutOfRange
  | invalidEscape
  | controlCharacter
  | loneSurrogate
  | unfinishedSurrogate
  | invalidCodePoint
  | tooDeep
  | mismatch (reason : Mismatch)
deriving DecidableEq, Repr

def Found.ofJson : Json → Found
  | .null => .null
  | .bool b => .bool b
  | .number n => .number n
  | .string s => .string s
  | .array _ => .sequence
  | .object _ => .map

def excerpt (c : Char) : List Char :=
  if c = '"' then ['\\', '"']
  else if c = '\\' then ['\\', '\\']
  else if c = '\n' then ['\\', 'n']
  else if c = '\r' then ['\\', 'r']
  else if c = '\t' then ['\\', 't']
  else if c = '\x00' then ['\\', '0']
  else if c.toNat < 32 ∨ (127 ≤ c.toNat ∧ c.toNat < 160) then
    ['\\', 'u', '\x7b'] ++ Nat.toDigits 16 c.toNat ++ ['\x7d']
  else [c]

def Found.message : Found → String
  | .null => "null"
  | .bool true => "boolean `true`"
  | .bool false => "boolean `false`"
  | .number (.integer n) => "integer `" ++ String.ofList (Number.text (.integer n)) ++ "`"
  | .number (.real x) => "floating point `" ++ String.ofList (Number.text (.real x)) ++ "`"
  | .string s => "string \"" ++ String.ofList (s.toList.flatMap excerpt) ++ "\""
  | .sequence => "sequence"
  | .map => "map"

def Mismatch.message : Mismatch → String
  | .invalidType found expected => "invalid type: " ++ found.message ++ ", expected " ++ expected
  | .invalidLength n expected => "invalid length " ++ Digits.decimal n ++ ", expected " ++ expected
  | .missingField name => "missing field `" ++ name ++ "`"
  | .duplicateField name => "duplicate field `" ++ name ++ "`"

def Cause.message : Cause → String
  | .endInValue => "EOF while parsing a value"
  | .endInString => "EOF while parsing a string"
  | .endInList => "EOF while parsing a list"
  | .endInObject => "EOF while parsing an object"
  | .expectedValue => "expected value"
  | .expectedWord => "expected ident"
  | .expectedColon => "expected `:`"
  | .expectedListCommaOrEnd => "expected `,` or `]`"
  | .expectedObjectCommaOrEnd => "expected `,` or `\x7d`"
  | .keyNotString => "key must be a string"
  | .trailingComma => "trailing comma"
  | .trailingCharacters => "trailing characters"
  | .invalidNumber => "invalid number"
  | .numberOutOfRange => "number out of range"
  | .invalidEscape => "invalid escape"
  | .controlCharacter => "control character (\\u0000-\\u001F) found while parsing a string"
  | .loneSurrogate => "lone leading surrogate in hex escape"
  | .unfinishedSurrogate => "unexpected end of hex escape"
  | .invalidCodePoint => "invalid unicode code point"
  | .tooDeep => "recursion limit exceeded"
  | .mismatch reason => reason.message

/-- A cause and its place: what is still unread, and how many bytes of that count as read. -/
structure Fault where
  cause : Cause
  unread : List Symbol
  beyond : Nat
deriving DecidableEq, Repr

namespace Fault

def before (cause : Cause) (unread : List Symbol) : Fault := ⟨cause, unread, 0⟩

def next (cause : Cause) (unread : List Symbol) : Fault := ⟨cause, unread, 1⟩

end Fault

/-- Why a text is refused, with the line and the column in bytes. -/
structure ReadError where
  cause : Cause
  line : Nat
  column : Nat
deriving DecidableEq, Repr

def Fault.locate (input : List Symbol) (fault : Fault) : ReadError :=
  let read := Symbol.widths input - Symbol.widths fault.unread
  let place := Symbol.position input (read + fault.beyond) 1 0
  ⟨fault.cause, place.1, place.2⟩

def ReadError.message (e : ReadError) : String :=
  e.cause.message ++ " at line " ++ Digits.decimal e.line ++ " column " ++ Digits.decimal e.column

/-- A reader takes a value off the front of a text. -/
abbrev Reader (α : Type) := List Symbol → Except Fault (α × List Symbol)

end OperatorKit.Json
