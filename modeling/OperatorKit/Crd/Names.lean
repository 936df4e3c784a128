import OperatorKit.Json.Decoder

/-! The names a custom resource is registered under. -/

namespace OperatorKit

structure ResourceNames where
  categories : List String
  kind : String
  listKind : String
  plural : String
  singular : String
deriving DecidableEq, Repr

namespace ResourceNames

/-- The names of a Cloudflare kind, all derived from the kind and its singular. -/
def cloudflare (kind singular : String) : ResourceNames :=
  { categories := ["all", "cloudflare"], kind, listKind := kind ++ "List", plural := singular ++ "s",
    singular }

def toJson (names : ResourceNames) : Json :=
  .object [("categories", .strings names.categories), ("kind", .string names.kind),
    ("listKind", .string names.listKind), ("plural", .string names.plural),
    ("singular", .string names.singular)]

structure Partial where
  categories : Option (List String)
  kind : Option String
  listKind : Option String
  plural : Option String
  singular : Option String

open Json.Decoder in
def decoder : Json.Decoder ResourceNames :=
  record {
    title := "struct ResourceNames"
    titleWithSize := "struct ResourceNames with 5 elements"
    fields := [
      field "categories" false (list string) Partial.categories fun s v => { s with categories := some v },
      field "kind" false string Partial.kind fun s v => { s with kind := some v },
      field "listKind" false string Partial.listKind fun s v => { s with listKind := some v },
      field "plural" false string Partial.plural fun s v => { s with plural := some v },
      field "singular" false string Partial.singular fun s v => { s with singular := some v }]
    blank := ⟨none, none, none, none, none⟩
    finish := fun s => do
      return {
        categories := ← required "categories" s.categories
        kind := ← required "kind" s.kind
        listKind := ← required "listKind" s.listKind
        plural := ← required "plural" s.plural
        singular := ← required "singular" s.singular } }

end ResourceNames

end OperatorKit
