import OperatorKit.Text.Digits
import OperatorKit.Text.Symbol

/-!
Percent encoding. A character outside ASCII is always encoded, byte by byte; which ASCII characters
are depends on the part of the URL.
-/

namespace OperatorKit.Percent

def isControl (c : Char) : Bool :=
  c.toNat < 0x20 || c.toNat = 0x7F

def inFragment (c : Char) : Bool :=
  isControl c || c = ' ' || c = '"' || c = '<' || c = '>' || c = '\x60'

def inPath (c : Char) : Bool :=
  inFragment c || c = '#' || c = '?' || c = '^' || c = '\x7b' || c = '\x7d'

def inUserinfo (c : Char) : Bool :=
  inPath c || c = '/' || c = ':' || c = ';' || c = '=' || c = '@' || c = '[' || c = '\\' ||
    c = ']' || c = '|'

def inQuery (c : Char) : Bool :=
  isControl c || c = ' ' || c = '"' || c = '#' || c = '<' || c = '>'

def inSpecialQuery (c : Char) : Bool :=
  inQuery c || c = '\''

def ofByte (b : UInt8) : List Char :=
  ['%', Digits.upper (b.toNat / 16), Digits.upper (b.toNat % 16)]

def encodeChar (escaped : Char → Bool) (c : Char) : List Char :=
  if c.toNat < 0x80 && !escaped c then [c] else (String.utf8EncodeChar c).flatMap ofByte

def encode (escaped : Char → Bool) (text : List Char) : String :=
  String.ofList (text.flatMap (encodeChar escaped))

def hexByte? (b : UInt8) : Option Nat :=
  Digits.value? (Char.ofNat b.toNat)

/-- Replaces a percent sign and the two digits that follow it; one without them stays. -/
def decode : List UInt8 → List UInt8
  | [] => []
  | a :: b :: c :: rest =>
    match (if a = 37 then hexByte? b else none), hexByte? c with
    | some x, some y => (x * 16 + y).toUInt8 :: decode rest
    | _, _ => a :: decode (b :: c :: rest)
  | a :: rest => a :: decode rest

end OperatorKit.Percent
