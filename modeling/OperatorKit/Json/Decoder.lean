import OperatorKit.Json.Skipping

/-!
Decoders of a given shape, from a text or from a value. A record is an object, whose unknown fields
are passed over, or a list of its fields in their order. From a text the first thing wrong is
reported, whether it is a fault of the text or a value of the wrong kind.
-/

namespace OperatorKit.Json

structure Decoder (α : Type) where
  /-- Reads off a text, where the depth is one more than the containers that may be opened. -/
  read : Nat → Reader α
  take : Json → Except Mismatch α

namespace Decoder

def misplaced (m : Mismatch) (unread : List Symbol) : Fault :=
  .before (.mismatch m) unread

/-- Why the value ahead is not of the expected kind: scalars are read to be named, containers are
only looked at. -/
def wrongKind (expected : String) (input : List Symbol) : Fault :=
  let found (f : Found) (rest : List Symbol) : Fault := misplaced (.invalidType f expected) rest
  let scalar {β : Type} (f : β → Found) (r : Except Fault (β × List Symbol)) : Fault :=
    match r with
    | .error e => e
    | .ok (v, rest) => found (f v) rest
  match input with
  | [] => .before .expectedValue []
  | s :: rest =>
    match s with
    | .char 'n' => scalar (fun _ : Unit => .null) ((word ['u', 'l', 'l'] rest).map ((), ·))
    | .char 't' => scalar (fun _ : Unit => .bool true) ((word ['r', 'u', 'e'] rest).map ((), ·))
    | .char 'f' => scalar (fun _ : Unit => .bool false) ((word ['a', 'l', 's', 'e'] rest).map ((), ·))
    | .char '-' => scalar .number (numeral false rest)
    | .char '"' => scalar .string (stringBody rest)
    | .char '[' => found .sequence input
    | .char '{' => found .map input
    | _ => if isDigit s then scalar .number (numeral true input) else .next .expectedValue input

/-- Anything at all. -/
def json : Decoder Json where
  read := anyValue
  take v := .ok v

def string : Decoder String where
  read _ input :=
    match skipBlank input with
    | [] => .error (.before .endInValue [])
    | .char '"' :: rest => stringBody rest
    | input => .error (wrongKind "a string" input)
  take
    | .string s => .ok s
    | v => .error (.invalidType (.ofJson v) "a string")

/-- A value or null. -/
def optional {α : Type} (d : Decoder α) : Decoder (Option α) where
  read depth input :=
    match skipBlank input with
    | .char 'n' :: rest => (word ['u', 'l', 'l'] rest).map fun rest => (none, rest)
    | input => (d.read depth input).map fun (v, rest) => (some v, rest)
  take
    | .null => .ok none
    | v => (d.take v).map some

/-- The items of an open list. -/
def readItems {α : Type} (d : Decoder α) (depth : Nat) : Nat → Bool → Reader (List α)
  | 0, _, input => .error (.before .tooDeep input)
  | fuel + 1, first, input =>
    match nextItem first input with
    | .error e => .error e
    | .ok (false, rest) => .ok ([], rest)
    | .ok (true, rest) =>
      match d.read depth rest with
      | .error e => .error e
      | .ok (v, rest) => (readItems d depth fuel false rest).map fun (vs, rest) => (v :: vs, rest)

def list {α : Type} (d : Decoder α) : Decoder (List α) where
  read depth input :=
    match skipBlank input with
    | [] => .error (.before .endInValue [])
    | .char '[' :: rest =>
      if depth ≤ 1 then .error (.next .tooDeep (.char '[' :: rest))
      else readItems d (depth - 1) (rest.length + 1) true rest
    | input => .error (wrongKind "a sequence" input)
  take
    | .array vs => vs.mapM d.take
    | v => .error (.invalidType (.ofJson v) "a sequence")

/-- A field of a record that is filled in step by step: `σ` is what is known of it so far. -/
structure Field (σ : Type) where
  name : String
  /-- A list of fields may end before it. -/
  optional : Bool
  given : σ → Bool
  read : Nat → σ → Reader σ
  take : σ → Json → Except Mismatch σ

def field {σ α : Type} (name : String) (optional : Bool) (d : Decoder α) (get : σ → Option α)
    (set : σ → α → σ) : Field σ where
  name
  optional
  given s := (get s).isSome
  read depth s input := (d.read depth input).map fun (v, rest) => (set s v, rest)
  take s v := (d.take v).map (set s)

structure Shape (σ α : Type) where
  /-- How messages name the record. -/
  title : String
  /-- How messages name it with the number of its fields. -/
  titleWithSize : String
  fields : List (Field σ)
  blank : σ
  finish : σ → Except Mismatch α

namespace Shape

variable {σ α : Type}

/-- After the last field of a record written as a list. -/
def listEnd (input : List Symbol) : Except Fault (List Symbol) :=
  match skipBlank input with
  | [] => .error (.before .endInList [])
  | s :: rest =>
    if s = .char ']' then .ok rest
    else if s = .char ',' then
      match skipBlank rest with
      | .char ']' :: _ => .error (.next .trailingComma (skipBlank rest))
      | rest => .error (.next .trailingCharacters rest)
    else .error (.next .trailingCharacters (s :: rest))

/-- The fields in order, off an open list. -/
def readInOrder (shape : Shape σ α) (depth : Nat) (state : σ) (read : Nat) :
    List (Field σ) → Reader α
  | [], input =>
    match listEnd input with
    | .error e => .error e
    | .ok rest =>
      match shape.finish state with
      | .ok v => .ok (v, rest)
      | .error m => .error (misplaced m rest)
  | f :: fs, input =>
    match nextItem (read = 0) input with
    | .error e => .error e
    | .ok (true, rest) =>
      match f.read depth state rest with
      | .error e => .error e
      | .ok (state, rest) => readInOrder shape depth state (read + 1) fs rest
    | .ok (false, rest) =>
      if (f :: fs).all (·.optional) then
        match shape.finish state with
        | .ok v => .ok (v, rest)
        | .error m => .error (misplaced m rest)
      else .error (misplaced (.invalidLength read shape.titleWithSize) rest)

/-- Where a second mention of a field is reported: the object is closed first if it ends there. -/
def afterRepeated (input : List Symbol) : List Symbol :=
  match skipBlank input with
  | .char '}' :: rest => rest
  | rest => rest

/-- The fields by name, off an open object. -/
def readByName (shape : Shape σ α) (depth : Nat) : Nat → Bool → σ → Reader α
  | 0, _, _, input => .error (.before .tooDeep input)
  | fuel + 1, first, state, input =>
    match nextKey first input with
    | .error e => .error e
    | .ok (none, rest) =>
      match shape.finish state with
      | .ok v => .ok (v, rest)
      | .error m => .error (misplaced m rest)
    | .ok (some key, rest) =>
      match shape.fields.find? (·.name = key) with
      | none =>
        match colon rest with
        | .error e => .error e
        | .ok rest =>
          match passAny rest with
          | .error e => .error e
          | .ok rest => readByName shape depth fuel false state rest
      | some f =>
        if f.given state then .error (misplaced (.duplicateField key) (afterRepeated rest))
        else
          match colon rest with
          | .error e => .error e
          | .ok rest =>
            match f.read depth state rest with
            | .error e => .error e
            | .ok (state, rest) => readByName shape depth fuel false state rest

def takeInOrder (shape : Shape σ α) (length : Nat) (state : σ) (taken : Nat) :
    List (Field σ) → List Json → Except Mismatch α
  | [], [] => shape.finish state
  | [], _ :: _ => .error (.invalidLength length "fewer elements in array")
  | f :: fs, [] =>
    if (f :: fs).all (·.optional) then shape.finish state
    else .error (.invalidLength taken shape.titleWithSize)
  | f :: fs, v :: vs =>
    match f.take state v with
    | .error e => .error e
    | .ok state => takeInOrder shape length state (taken + 1) fs vs

def takeByName (shape : Shape σ α) (state : σ) : List (String × Json) → Except Mismatch α
  | [] => shape.finish state
  | (key, v) :: rest =>
    match shape.fields.find? (·.name = key) with
    | none => takeByName shape state rest
    | some f =>
      if f.given state then .error (.duplicateField key)
      else
        match f.take state v with
        | .error e => .error e
        | .ok state => takeByName shape state rest

end Shape

/-- The decoder of a record of a given shape. -/
def record {σ α : Type} (shape : Shape σ α) : Decoder α where
  read depth input :=
    match skipBlank input with
    | [] => .error (.before .endInValue [])
    | s :: rest =>
      if s = .char '[' then
        if depth ≤ 1 then .error (.next .tooDeep (s :: rest))
        else shape.readInOrder (depth - 1) shape.blank 0 shape.fields rest
      else if s = .char '{' then
        if depth ≤ 1 then .error (.next .tooDeep (s :: rest))
        else shape.readByName (depth - 1) (rest.length + 1) true shape.blank rest
      else .error (wrongKind shape.title (s :: rest))
  take
    | .array vs => shape.takeInOrder vs.length shape.blank 0 shape.fields vs
    | .object fs => shape.takeByName shape.blank fs
    | v => .error (.invalidType (.ofJson v) shape.title)

/-- A required part of a record. -/
def required {α : Type} (name : String) : Option α → Except Mismatch α
  | some v => .ok v
  | none => .error (.missingField name)

/-- Decodes a whole text. -/
def parseSymbols {α : Type} (d : Decoder α) (input : List Symbol) : Except ReadError α :=
  whole (d.read depthLimit) input

def parse {α : Type} (d : Decoder α) (text : String) : Except ReadError α :=
  d.parseSymbols (Symbol.ofString text)

def parseBytes {α : Type} (d : Decoder α) (bytes : List UInt8) : Except ReadError α :=
  d.parseSymbols (Symbol.ofBytes bytes)

end Decoder

end OperatorKit.Json
