/-!
The symbols a text is read in. A text given as bytes need not be UTF-8: a byte that belongs to no
character is a symbol of its own, one byte wide. Without such bytes it is the UTF-8 of its characters.
-/

namespace OperatorKit

inductive Symbol where
  | char (c : Char)
  | stray (byte : UInt8)
deriving DecidableEq, Repr, Inhabited

namespace Symbol

/-- The bytes a symbol takes. -/
def width : Symbol → Nat
  | char c => c.utf8Size
  | stray _ => 1

def widths (input : List Symbol) : Nat :=
  input.foldr (fun symbol n => symbol.width + n) 0

def ofString (text : String) : List Symbol :=
  text.toList.map char

/-- The six low bits of a byte that continues a character. -/
def continuation? (b : UInt8) : Option Nat :=
  if b.toNat / 64 = 2 then some (b.toNat % 64) else none

/-- The character of a code point, if its encoding is no longer than it need be. -/
def scalar? (least n : Nat) : Option Char :=
  if least ≤ n ∧ n.isValidChar then some (Char.ofNat n) else none

def twoByte? (a b : UInt8) : Option Char := do
  guard (a.toNat / 32 = 6)
  scalar? 0x80 ((a.toNat % 32) * 64 + (← continuation? b))

def threeByte? (a b c : UInt8) : Option Char := do
  guard (a.toNat / 16 = 14)
  scalar? 0x800 (((a.toNat % 16) * 64 + (← continuation? b)) * 64 + (← continuation? c))

def fourByte? (a b c d : UInt8) : Option Char := do
  guard (a.toNat / 8 = 30)
  scalar? 0x10000 ((((a.toNat % 8) * 64 + (← continuation? b)) * 64 + (← continuation? c)) * 64
    + (← continuation? d))

/-- The symbol at the front of bytes, and how many more bytes belong to it. -/
def front (a : UInt8) (rest : List UInt8) : Symbol × Nat :=
  if a.toNat < 0x80 then (char (Char.ofNat a.toNat), 0)
  else
    match rest with
    | [] => (stray a, 0)
    | b :: rest =>
      match twoByte? a b, rest with
      | some x, _ => (char x, 1)
      | none, [] => (stray a, 0)
      | none, c :: rest =>
        match threeByte? a b c, rest with
        | some x, _ => (char x, 2)
        | none, [] => (stray a, 0)
        | none, d :: _ =>
          match fourByte? a b c d with
          | some x => (char x, 3)
          | none => (stray a, 0)

/-- Cuts bytes into symbols, after those that belong to a symbol already cut. -/
def cut : Nat → List UInt8 → List Symbol
  | _, [] => []
  | skipped + 1, _ :: rest => cut skipped rest
  | 0, a :: rest => (front a rest).1 :: cut (front a rest).2 rest

/-- Cuts bytes into characters wherever one starts, and into stray bytes elsewhere. -/
def ofBytes (bytes : List UInt8) : List Symbol :=
  cut 0 bytes

/-- Line and column after a number of bytes. Lines count from one; the column is the number of
bytes since the last line end. -/
def position (input : List Symbol) (bytes : Nat) (line column : Nat) : Nat × Nat :=
  match input with
  | [] => (line, column)
  | s :: rest =>
    if bytes = 0 then (line, column)
    else if s = char '\n' then position rest (bytes - 1) (line + 1) 0
    else if s.width ≤ bytes then position rest (bytes - s.width) line (column + s.width)
    else (line, column + bytes)

end Symbol

namespace Utf8

def encode (text : String) : List UInt8 :=
  text.toUTF8.data.toList

/-- The characters, if no byte is stray. -/
def characters? : List Symbol → Option (List Char)
  | [] => some []
  | .char c :: rest => (characters? rest).map (c :: ·)
  | .stray _ :: _ => none

def decode? (bytes : List UInt8) : Option String :=
  (characters? (Symbol.ofBytes bytes)).map String.ofList

end Utf8

end OperatorKit
