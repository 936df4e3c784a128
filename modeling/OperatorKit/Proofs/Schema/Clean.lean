import OperatorKit.Proofs.Schema.Meaning

/-!
Clean values: no object in them, at any depth, has the key of a reference, of documentation or of a
vendor extension. The meaning of a schema is clean, wherever its fields came from.
-/

namespace OperatorKit

def Keyword.Plain (key : String) : Prop :=
  key ∉ ["$ref", "description", "title", "readOnly"] ∧ ¬ ['x', '-'] <+: key.toList

instance (key : String) : Decidable (Keyword.Plain key) :=
  inferInstanceAs (Decidable (_ ∧ _))

def Json.Clean (v : Json) : Prop :=
  ∀ fields, v.Contains Json.everyKey (.object fields) → ∀ field ∈ fields, Keyword.Plain field.1

theorem Keyword.plain_iff {key : String} : Plain key ↔ isStripped key = false ∧ key ≠ reference := by
  have named : key ∉ ["$ref", "description", "title", "readOnly"] ↔
      key ≠ reference ∧ documentation.contains key = false := by
    simp [reference, documentation]
  have extension : ¬ ['x', '-'] <+: key.toList ↔ isExtension key = false := by
    rw [isExtension, ← Bool.not_eq_true, List.isPrefixOf_iff_prefix]
  rw [Plain, named, extension, isStripped, Bool.or_eq_false_iff]
  tauto

namespace Json

theorem Clean.inside {v w : Json} (clean : v.Clean) (inside : v.Contains everyKey w) : w.Clean :=
  Throughout.inside clean inside

theorem clean_array_iff {vs : List Json} : Clean (.array vs) ↔ ∀ v ∈ vs, Clean v :=
  throughout_array_iff

theorem clean_object_iff {fields : Fields} :
    Clean (.object fields) ↔ ∀ field ∈ fields, Keyword.Plain field.1 ∧ Clean field.2 :=
  throughout_object_iff.trans forall₂_and.symm

theorem clean_scalar {v : Json} (plain : v.fields? = none ∧ v.items? = none) : v.Clean :=
  throughout_scalar plain

end Json

namespace Schema

variable {document : Json}

theorem lookup_none {fields : Fields} {field : String × Json} {key : String}
    (absent : fields.lookup key = none) (member : field ∈ fields) : field.1 ≠ key := by
  rintro rfl
  have found := List.lookup_eq_none_iff.mp absent field member
  simp at found

theorem Means.clean {v r : Json} (means : Means document v r) : r.Clean := by
  refine Means.induct ?scalar ?array ?object means
  case scalar => exact fun v plain => Json.clean_scalar plain
  case array =>
    intro vs rs items
    exact Json.clean_array_iff.mpr fun r member => (exists_of_forall₂ items.flip member).choose_spec
  case object =>
    intro fields merged results links chain keys values
    refine Json.clean_object_iff.mpr fun result member => ⟨?_, ?_⟩
    · have key : result.1 ∈ (kept merged).map (·.1) := keys ▸ List.mem_map_of_mem member
      obtain ⟨field, survives, same⟩ := List.mem_map.mp key
      obtain ⟨at_, plain⟩ := mem_kept.mp survives
      exact same ▸ Keyword.plain_iff.mpr ⟨plain, lookup_none chain.free at_⟩
    · exact (exists_of_forall₂ values.flip (List.mem_map_of_mem member)).choose_spec

end Schema

end OperatorKit
