import OperatorKit.Proofs.Json.Records
import OperatorKit.Crd.Manifest

/-!
A list of objects is read back from its manifest. The list is two containers around each of its items, so
an item may nest two levels less than a text as a whole.
-/

namespace OperatorKit.ObjectList

open Json

variable {layout : Layout} {depth : Nat} {list : ObjectList}

theorem takes_metadata (version : String) : Takes layout (metadata.read (depth + 2))
    (.object [("resourceVersion", .string version)]) version :=
  takes_record (.field rfl rfl (takes_field (takes_string _ _ version) _) (.done rfl))

theorem takes_toJson (each : ∀ v ∈ list.items, Readable layout (depth + 2) v) :
    Takes layout (decoder.read (depth + 4)) list.toJson list := by
  refine takes_record (.field rfl rfl (takes_field (takes_string _ _ list.apiVersion) _) ?_)
  refine .field rfl rfl (takes_field (takes_list each) _) ?_
  refine .field rfl rfl (takes_field (takes_string _ _ list.kind) _) ?_
  refine .field rfl rfl (takes_field (takes_metadata list.resourceVersion) _) ?_
  exact .done rfl

/-- A list of values whose numbers are whole and whose objects have each key once is read back from its
text, each value as it was and with its keys in the same order. -/
theorem decoder_parse_render {items : List Json} (whole : ∀ v ∈ items, v.Whole)
    (distinct : ∀ v ∈ items, v.Distinct) (nested : ∀ v ∈ items, v.nesting ≤ 125) :
    decoder.parse (Manifest.render (ofItems items) .json) = .ok (ofItems items) := by
  refine parse_of_takes (takes_toJson fun v member => ?_)
  exact readable_of_whole (whole v member) (distinct v member) (nested v member)

def mixedItems : List Json :=
  [.object [("b\u0001\"\\é",
        .array [.number (.integer (-9223372036854775808)), .number (.integer 18446744073709551615)]),
      ("a", .object []), ("", .string "/\n\t😀\u007f")],
    .null, .array [.bool true, .array [.array []]]]

theorem decoder_parse_render_mixed :
    ((∀ v ∈ mixedItems, v.Whole) ∧ (∀ v ∈ mixedItems, v.Distinct) ∧
      ∀ v ∈ mixedItems, v.nesting ≤ 125) ∧
    decoder.parse (Manifest.render (ofItems mixedItems) .json) = .ok (ofItems mixedItems) := by
  have whole : ∀ v ∈ mixedItems, v.Whole := by
    simp [mixedItems, whole_object_iff, whole_array_iff, whole_number_iff, whole_scalar,
      Number.IsWhole, maxUnsigned, fields?, items?]
  have distinct : ∀ v ∈ mixedItems, v.Distinct := by
    simp [mixedItems, Distinct, throughout_object_iff, throughout_array_iff, throughout_scalar,
      fields?, items?]
  have nested : ∀ v ∈ mixedItems, v.nesting ≤ 125 := by decide
  exact ⟨⟨whole, distinct, nested⟩, decoder_parse_render whole distinct nested⟩

end OperatorKit.ObjectList
