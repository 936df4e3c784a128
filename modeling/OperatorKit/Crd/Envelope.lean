import OperatorKit.Crd.Names
import OperatorKit.Json.Location

/-!
The definition a schema is embedded in. It has one version, and a slot for the schema of `spec` that
is null until one is put there.
-/

namespace OperatorKit.Envelope

def group : String := "cloudflare.adviser.com"

def version : String := "v1beta1"

/-- Where the schema of `spec` is embedded. -/
def slot : List String :=
  ["spec", "versions", "0", "schema", "openAPIV3Schema", "properties", "spec"]

def apiVersionDescription : String :=
  "APIVersion defines the versioned schema of this representation of an object. " ++
  "Servers should convert recognized schemas to the latest internal value, and may reject " ++
  "unrecognized values. More info: " ++
  "https://git.k8s.io/community/contributors/devel/sig-architecture/api-conventions.md#resources"

def kindDescription : String :=
  "Kind is a string value representing the REST resource this object represents. " ++
  "Servers may infer this from the endpoint the client submits requests to. Cannot be updated. " ++
  "In CamelCase. More info: " ++
  "https://git.k8s.io/community/contributors/devel/sig-architecture/api-conventions.md#types-kinds"

def described (description type : String) : Json :=
  .object [("description", .string description), ("type", .string type)]

def conditionSchema : Json :=
  .object [
    ("properties", .object [
      ("lastTransitionTime", .object [
        ("description", .string "The last time this Condition status changed."),
        ("format", .string "date-time"), ("type", .string "string")]),
      ("message", described "Full text reason for current status of the condition." "string"),
      ("reason",
        described "One word, camel-case reason for current status of the condition." "string"),
      ("status", described "True, False, or Unknown" "string"),
      ("type",
        described "Type indicates the scope of the custom resource status addressed by the condition."
          "string")]),
    ("required", .strings ["status", "type"]),
    ("type", .string "object")]

def statusSchema (kind : String) : Json :=
  .object [
    ("description", .string (kind ++ "Status defines the observed state of " ++ kind)),
    ("properties", .object [
      ("conditions", .object [("items", conditionSchema), ("type", .string "array")]),
      ("observedGeneration", .object [
        ("description", .string (
          "observedGeneration is the most recent successful generation observed for this " ++ kind ++
          ". It corresponds to the " ++ kind ++
          "'s generation, which is updated on mutation by the API Server.")),
        ("format", .string "int64"), ("type", .string "integer")])]),
    ("type", .string "object")]

def rootSchema (kind : String) : Json :=
  .object [
    ("description", .string (kind ++ " is the Schema for the " ++ kind ++ " API")),
    ("type", .string "object"),
    ("properties", .object [
      ("apiVersion", described apiVersionDescription "string"),
      ("kind", described kindDescription "string"),
      ("metadata", .object [("type", .string "object")]),
      ("spec", .null),
      ("status", statusSchema kind)])]

def build (names : ResourceNames) : Json :=
  .object [
    ("apiVersion", .string "apiextensions.k8s.io/v1"),
    ("kind", .string "CustomResourceDefinition"),
    ("metadata", .object [("name", .string (names.plural ++ "." ++ group))]),
    ("spec", .object [
      ("group", .string group),
      ("versions", .array [.object [
        ("name", .string version), ("served", .bool true), ("storage", .bool true),
        ("schema", .object [("openAPIV3Schema", rootSchema names.kind)])]]),
      ("names", names.toJson),
      ("scope", .string "Namespaced")])]

def embed (envelope schema : Json) : Json :=
  envelope.setAt slot schema

/-- The schema in the slot, unless it is null. -/
def embedded? (envelope : Json) : Option Json :=
  match envelope.at? slot with
  | some .null => none
  | found => found

end OperatorKit.Envelope
