import OperatorKit.Data.Entries

/-! JSON values. Objects are ordered: they have their keys as these were first written. -/

namespace OperatorKit

/-- A binary64 floating-point number, held as its bit pattern so that equality is decidable. -/
structure Binary64 where
  bits : UInt64
deriving DecidableEq, Repr, Inhabited

/-- A number is an integer in the unsigned or signed 64-bit range, or else a binary64. -/
inductive Number where
  | integer (value : Int)
  | real (value : Binary64)
deriving DecidableEq, Repr, Inhabited

inductive Json where
  | null
  | bool (value : Bool)
  | number (value : Number)
  | string (value : String)
  | array (items : List Json)
  | object (fields : List (String × Json))
deriving Repr, Inhabited

abbrev Fields := Entries Json

namespace Json

def fields? : Json → Option Fields
  | .object fields => some fields
  | _ => none

def items? : Json → Option (List Json)
  | .array items => some items
  | _ => none

def string? : Json → Option String
  | .string value => some value
  | _ => none

def member? (v : Json) (key : String) : Option Json :=
  v.fields?.bind (·.lookup key)

def walk? (v : Json) : List String → Option Json
  | [] => some v
  | key :: rest => (v.member? key).bind (walk? · rest)

def ofInt (n : Int) : Json :=
  .number (.integer n)

def strings (texts : List String) : Json :=
  .array (texts.map .string)

end Json

end OperatorKit
