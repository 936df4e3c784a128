import OperatorKit.Crd.Error
import OperatorKit.Json.Location

/-!
Access rules. The interface gives each rule of `include` as one of several objects with a single
key. The definition gives one object that has all these keys as properties and of which exactly one
is required, and `exclude` and `require` share it.
-/

namespace OperatorKit.Rules

/-- The lists of rules that share one schema. -/
def fields : List String := ["include", "exclude", "require"]

def variantsPath : List String := ["properties", "include", "items", "oneOf"]

def variantsPointer : String := "/properties/include/items/oneOf"

def mismatch (path reason : String) : CrdError :=
  .shapeMismatch "AccessGroup" ("spec" ++ path) reason

/-- The key of a variant and its schema: the first property is the only one looked at. -/
def variant? (v : Json) : Option (String × Json) :=
  ((v.member? "properties").bind Json.fields?).bind List.head?

/-- Gathers the properties of the variants and the keys that are new, in order. -/
def gather (index : Nat) (properties : Fields) (keys : List String) :
    List Json → Except CrdError (Fields × List String)
  | [] => .ok (properties, keys)
  | v :: rest =>
    match variant? v with
    | none =>
      .error (mismatch (variantsPointer ++ "/" ++ Digits.decimal index ++ "/properties")
        "rule variant has no properties")
    | some (key, schema) =>
      gather (index + 1) (Entries.put properties key schema)
        (if (properties.lookup key).isSome then keys else keys ++ [key]) rest

/-- The schema of a rule that has exactly one of the keys. -/
def ofProperties (properties : Fields) (keys : List String) : Json :=
  .object [("type", .string "object"), ("properties", .object properties),
    ("oneOf", .array (keys.map fun key => .object [("required", .strings [key])]))]

def ruleSchema (spec : Json) : Except CrdError Json :=
  match (spec.at? variantsPath).bind Json.items? with
  | none => .error (mismatch variantsPointer "expected an array of rule variants")
  | some variants =>
    (gather 0 [] [] variants).map fun (properties, keys) => ofProperties properties keys

def listOf (rule : Json) : Json :=
  .object [("type", .string "array"), ("items", rule)]

/-- Gives the three lists of rules the merged schema. -/
def restructure (spec : Json) : Except CrdError Json :=
  match ruleSchema spec with
  | .error e => .error e
  | .ok rule =>
    match (spec.member? "properties").bind Json.fields? with
    | none => .error (mismatch "/properties" "expected an object")
    | some properties =>
      .ok (spec.setChild "properties"
        (.object (fields.foldl (fun properties field => Entries.put properties field (listOf rule))
          properties)))

/-- Writes one list among the properties, if there are any. -/
def putList (rule spec : Json) (field : String) : Json :=
  match (spec.member? "properties").bind Json.fields? with
  | none => spec
  | some properties =>
    spec.setChild "properties" (.object (Entries.put properties field (listOf rule)))

/-- The rules of a schema are restructured where it stands, one list after the other. What has been
written stays written if the change fails. -/
def restructureInPlace : EStateM CrdError Json Unit := do
  match ruleSchema (← get) with
  | .error e => throw e
  | .ok rule =>
    match ((← get).member? "properties").bind Json.fields? with
    | none => throw (mismatch "/properties" "expected an object")
    | some _ => fields.forM fun field => modify (putList rule · field)

end OperatorKit.Rules
