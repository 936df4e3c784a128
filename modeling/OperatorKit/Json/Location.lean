import OperatorKit.Json.Basic

/-!
Locations: paths of tokens that select a member of an object by key and an element of an array by
its index. Reading and writing descend alike, so what is written at a location is read there.
-/

namespace OperatorKit.Json

/-- An index is written in decimal digits, without a sign or a leading zero. -/
def index? (token : String) : Option Nat :=
  match token.toList with
  | [] => none
  | '0' :: _ :: _ => none
  | digits =>
    if digits.all Char.isDigit then
      some (digits.foldl (fun n c => n * 10 + (c.toNat - '0'.toNat)) 0)
    else none

/-- One step down. -/
def child? (v : Json) (token : String) : Option Json :=
  match v with
  | .object fields => fields.lookup token
  | .array items => (index? token).bind (items[·]?)
  | _ => none

/-- The value at a location. -/
def at? (v : Json) : List String → Option Json
  | [] => some v
  | token :: rest => (v.child? token).bind (at? · rest)

/-- Puts a value where one step down already leads, and changes nothing where it does not. -/
def setChild (v : Json) (token : String) (child : Json) : Json :=
  match v with
  | .object fields => if (fields.lookup token).isSome then .object (Entries.put fields token child) else v
  | .array items =>
    match index? token with
    | some i => .array (items.set i child)
    | none => v
  | _ => v

/-- Puts a value at a location that exists, and changes nothing at one that does not. -/
def setAt (v : Json) (path : List String) (value : Json) : Json :=
  match path with
  | [] => value
  | token :: rest =>
    match v.child? token with
    | some child => v.setChild token (setAt child rest value)
    | none => v

end OperatorKit.Json
