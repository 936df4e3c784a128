import OperatorKit.Json.Text
import OperatorKit.Schema.Reference

/-!
Resolution of a schema: every reference is replaced by what it leads to and the keys that never
survive are dropped. The target of a reference is laid over the fields beside the reference before
any of them is resolved, and a target that refers on is followed in the same way.

The references being expanded form a stack, outermost first, which every step takes and leaves. A
reference that is on the stack already closes a cycle.
-/

namespace OperatorKit

namespace Keyword

def reference : String := "$ref"

/-- Keys that only document, or that belong to answers and not to requests. -/
def documentation : List String := ["description", "title", "readOnly"]

/-- Vendor extensions start with `x-`. -/
def isExtension (key : String) : Bool :=
  ['x', '-'].isPrefixOf key.toList

/-- Keys that never survive resolution. -/
def isStripped (key : String) : Bool :=
  documentation.contains key || isExtension key

end Keyword

namespace Schema

abbrev Stack := List String

/-- What a step gives and the stack it leaves, whether it succeeds or not. -/
abbrev Step (α : Type) := Except SchemaError α × Stack

/-- Why a reference is refused that is not a text, or does not lead to an object. -/
def notText : String := "reference is not a string"

def notObject : String := "target is not an object"

def defaultLimit : Nat := 64

def reference (v : Json) : Except SchemaError Reference :=
  match v with
  | .string text => Reference.ofString text
  | v => .error (.invalid v.compact notText)

def target (document : Json) (r : Reference) : Except SchemaError Fields :=
  match document.lookup r with
  | .error e => .error e
  | .ok (.object fields) => .ok fields
  | .ok _ => .error (.invalid r.text notObject)

/-- A reference and the object it leads to, unless it is being expanded already. -/
def enter (document : Json) (stack : Stack) (v : Json) : Except SchemaError (Reference × Fields) :=
  match reference v with
  | .error e => .error e
  | .ok r =>
    if stack.contains r.text then .error (.circular (stack ++ [r.text]))
    else (target document r).map fun fields => (r, fields)

/-- The fields beside a reference under those of the object it leads to. -/
def splice (fields upper : Fields) : Fields :=
  Entries.overlay (Entries.erase fields Keyword.reference) upper

/-- Follows the reference among some fields, and the references this leads to, until none is left.
No more than `more` references are followed. -/
def inline (document : Json) (more : Nat) (fields : Fields) (stack : Stack) : Step Fields :=
  match fields.lookup Keyword.reference with
  | none => (.ok fields, stack)
  | some v =>
    match enter document stack v with
    | .error e => (.error e, stack)
    | .ok (r, upper) =>
      match more with
      | 0 => (.error (.circular (stack ++ [r.text])), stack)
      | more + 1 => inline document more (splice fields upper) (stack ++ [r.text])

/-- Runs a step over a list from the front and stops at the first error. -/
def each {α β : Type} (step : α → Stack → Step β) : List α → Stack → Step (List β)
  | [], stack => (.ok [], stack)
  | a :: rest, stack =>
    match step a stack with
    | (.error e, stack) => (.error e, stack)
    | (.ok b, stack) =>
      match each step rest stack with
      | (.error e, stack) => (.error e, stack)
      | (.ok bs, stack) => (.ok (b :: bs), stack)

/-- Runs a step on the value of a field, which keeps its key. -/
def onField (step : Json → Stack → Step Json) (field : String × Json) (stack : Stack) :
    Step (String × Json) :=
  match step field.2 stack with
  | (.error e, stack) => (.error e, stack)
  | (.ok v, stack) => (.ok (field.1, v), stack)

def kept (fields : Fields) : Fields :=
  fields.filter fun field => !Keyword.isStripped field.1

/-- Resolves a value when `levels` more levels may be entered. The stack is back to its length at
entry when an object is done. -/
def resolveValue (document : Json) (limit more : Nat) : Nat → Json → Stack → Step Json
  | 0, _, stack => (.error (.tooDeep limit), stack)
  | levels + 1, v, stack =>
    match v with
    | .object fields =>
      match inline document more fields stack with
      | (.error e, inner) => (.error e, inner)
      | (.ok fields, inner) =>
        match each (onField (resolveValue document limit more levels)) (kept fields) inner with
        | (.error e, inner) => (.error e, inner)
        | (.ok fields, inner) => (.ok (.object fields), inner.take stack.length)
    | .array vs =>
      match each (resolveValue document limit more levels) vs stack with
      | (.error e, stack) => (.error e, stack)
      | (.ok vs, stack) => (.ok (.array vs), stack)
    | v => (.ok v, stack)

mutual

/-- The references written anywhere in a value. -/
def references : Json → List String
  | .array vs => referencesOfItems vs
  | .object fields => referencesOfFields fields
  | _ => []

def referencesOfItems : List Json → List String
  | [] => []
  | v :: rest => references v ++ referencesOfItems rest

def referencesOfFields : List (String × Json) → List String
  | [] => []
  | (key, v) :: rest =>
    (match key == Keyword.reference, v with
      | true, .string text => [text]
      | _, _ => []) ++ references v ++ referencesOfFields rest

end

/-- Resolves a value against a document, entering at most `limit` levels below it. References that
are followed one after the other are distinct, and each is written in the value or the document. -/
def resolve (document : Json) (limit : Nat) (v : Json) : Except SchemaError Json :=
  (resolveValue document limit (references v ++ references document).length (limit + 1) v []).1

end Schema

end OperatorKit
