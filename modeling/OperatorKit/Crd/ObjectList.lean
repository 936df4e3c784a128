import OperatorKit.Json.Decoder

/-! A `v1` list of objects, as a cluster takes it in one piece. -/

namespace OperatorKit

structure ObjectList where
  apiVersion : String
  items : List Json
  kind : String
  resourceVersion : String
deriving Repr

namespace ObjectList

def ofItems (items : List Json) : ObjectList :=
  { apiVersion := "v1", items, kind := "List", resourceVersion := "" }

def toJson (list : ObjectList) : Json :=
  .object [("apiVersion", .string list.apiVersion), ("items", .array list.items),
    ("kind", .string list.kind),
    ("metadata", .object [("resourceVersion", .string list.resourceVersion)])]

structure Partial where
  apiVersion : Option String
  items : Option (List Json)
  kind : Option String
  metadata : Option String

open Json.Decoder

/-- The metadata of a list is its resource version. -/
def metadata : Json.Decoder String :=
  record {
    title := "struct ListMeta"
    titleWithSize := "struct ListMeta with 1 element"
    fields := [field "resourceVersion" false string id fun _ v => some v]
    blank := none
    finish := required "resourceVersion" }

def decoder : Json.Decoder ObjectList :=
  record {
    title := "struct KubeList"
    titleWithSize := "struct KubeList with 4 elements"
    fields := [
      field "apiVersion" false string Partial.apiVersion fun s v => { s with apiVersion := some v },
      field "items" false (list json) Partial.items fun s v => { s with items := some v },
      field "kind" false string Partial.kind fun s v => { s with kind := some v },
      field "metadata" false metadata Partial.metadata fun s v => { s with metadata := some v }]
    blank := ⟨none, none, none, none⟩
    finish := fun s => do
      return {
        apiVersion := ← required "apiVersion" s.apiVersion
        items := ← required "items" s.items
        kind := ← required "kind" s.kind
        resourceVersion := ← required "metadata" s.metadata } }

end ObjectList

end OperatorKit
