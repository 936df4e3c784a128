import OperatorKit.Json.Basic
import OperatorKit.Schema.Error
import OperatorKit.Text.Split

/-!
Local references. `#/components/schemas/tunnel` names the key `tunnel` in the object found by
walking the directory `components`, `schemas` from the top of a document; arrays are never entered. In
a segment `~1` stands for a slash and `~0` for a tilde.
-/

namespace OperatorKit

structure Reference where
  text : String
  directory : List String
  key : String
deriving DecidableEq, Repr

namespace Reference

/-- Replaces every tilde that a mark follows, the mark with it. -/
def replaceTilde (mark replacement : Char) : List Char → List Char
  | [] => []
  | [c] => [c]
  | c :: d :: rest =>
    if c = '~' ∧ d = mark then replacement :: replaceTilde mark replacement rest
    else c :: replaceTilde mark replacement (d :: rest)

/-- Slashes are restored first, so that `~01` gives `~1`. -/
def unescape (segment : List Char) : List Char :=
  replaceTilde '0' '~' (replaceTilde '1' '/' segment)

def escape (segment : List Char) : List Char :=
  segment.flatMap fun c => if c = '~' then ['~', '0'] else if c = '/' then ['~', '1'] else [c]

/-- Why a reference whose directory or key has no name is refused. -/
def emptySegment : String := "empty path segment"

def ofString (text : String) : Except SchemaError Reference :=
  match text.toList with
  | '#' :: '/' :: rest =>
    let path := (Text.cutAt (· = '/') rest).map fun s => String.ofList (unescape s)
    if path.any (·.isEmpty) then .error (.invalid text emptySegment)
    else .ok ⟨text, path.dropLast, path.getLastD ""⟩
  | _ => .error (.unsupported text)

/-- The reference that a path of keys is written as. -/
def textOf (path : List String) : String :=
  String.ofList ('#' :: path.flatMap fun key => '/' :: escape key.toList)

end Reference

namespace Json

def directory? (document : Json) (r : Reference) : Option Fields :=
  (document.walk? r.directory).bind fields?

def lookup (document : Json) (r : Reference) : Except SchemaError Json :=
  match (document.directory? r).bind (·.lookup r.key) with
  | some v => .ok v
  | none => .error (.unresolved r.text)

end Json

end OperatorKit
