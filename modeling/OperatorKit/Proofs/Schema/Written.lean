import OperatorKit.Proofs.Schema.Unfolding

/-!
Which references are written in a value, and where the references that unfolding meets come from:
each is written in the value at the start or in the target of a reference that was followed.
-/

namespace OperatorKit.Schema

/-- A value is written somewhere as a reference, below keys that are kept. -/
def Written (keep : String → Bool) (v x : Json) : Prop :=
  ∃ fields, v.Contains keep (.object fields) ∧ (Keyword.reference, x) ∈ fields

variable {document : Json} {keep : String → Bool}

theorem Written.lift {u v x : Json} (inside : u.Contains keep v) (written : Written keep v x) :
    Written keep u x := by
  obtain ⟨fields, deeper, member⟩ := written
  exact ⟨fields, inside.trans deeper, member⟩

theorem Written.item {vs : List Json} {v x : Json} (member : v ∈ vs) (written : Written keep v x) :
    Written keep (.array vs) x :=
  written.lift (.item member .here)

theorem Written.field {fields : Fields} {field : String × Json} {x : Json} (member : field ∈ fields)
    (kept : keep field.1 = true) (written : Written keep field.2 x) :
    Written keep (.object fields) x :=
  written.lift (.field member kept .here)

theorem Written.own {fields : Fields} {x : Json} (member : (Keyword.reference, x) ∈ fields) :
    Written keep (.object fields) x :=
  ⟨fields, .here, member⟩

theorem written_object_iff {fields : Fields} {x : Json} :
    Written keep (.object fields) x ↔ (Keyword.reference, x) ∈ fields ∨
      ∃ field ∈ fields, keep field.1 = true ∧ Written keep field.2 x := by
  constructor
  · rintro ⟨inner, inside, member⟩
    cases inside with
    | here => exact Or.inl member
    | field at_ kept deeper => exact Or.inr ⟨_, at_, kept, inner, deeper, member⟩
  · rintro (member | ⟨field, at_, kept, written⟩)
    · exact .own member
    · exact written.field at_ kept

theorem written_array_iff {vs : List Json} {x : Json} :
    Written keep (.array vs) x ↔ ∃ v ∈ vs, Written keep v x := by
  constructor
  · rintro ⟨inner, inside, member⟩
    cases inside with
    | item there deeper => exact ⟨_, there, inner, deeper, member⟩
  · rintro ⟨v, there, written⟩
    exact written.item there

theorem not_written_scalar {v x : Json} (plain : v.fields? = none ∧ v.items? = none) :
    ¬ Written keep v x := by
  rintro ⟨inner, inside, _⟩
  cases inside with
  | here => cases plain.1
  | item _ _ => cases plain.2
  | field _ _ _ => cases plain.1

theorem Written.anywhere {v x : Json} (written : Written keep v x) : Written Json.everyKey v x := by
  obtain ⟨fields, inside, member⟩ := written
  exact ⟨fields, inside.anywhere, member⟩

theorem mem_referencesOfItems {vs : List Json} {p : String} :
    p ∈ referencesOfItems vs ↔ ∃ v ∈ vs, p ∈ references v := by
  induction vs with
  | nil => simp [referencesOfItems]
  | cons v rest ih => simp [referencesOfItems, ih]

theorem mem_referencesOfFields {fields : Fields} {p : String} :
    p ∈ referencesOfFields fields ↔
      (Keyword.reference, .string p) ∈ fields ∨ ∃ field ∈ fields, p ∈ references field.2 := by
  induction fields with
  | nil => simp [referencesOfFields]
  | cons field rest ih =>
    obtain ⟨key, v⟩ := field
    by_cases same : key = Keyword.reference
    · cases v <;> simp [referencesOfFields, ih, same, or_assoc, or_left_comm, eq_comm]
    · have apart : (key == Keyword.reference) = false := beq_eq_false_iff_ne.mpr same
      simp [referencesOfFields, ih, apart, Ne.symm same, or_left_comm]

theorem written_of_mem_references {v : Json} {p : String} (member : p ∈ references v) :
    Written Json.everyKey v (.string p) := by
  induction v using Json.induct with
  | scalar v plain => cases v <;> simp [references, Json.fields?, Json.items?] at member plain
  | array vs ih =>
    obtain ⟨v, there, inner⟩ := mem_referencesOfItems.mp member
    exact (ih v there inner).item there
  | object fields ih =>
    rcases mem_referencesOfFields.mp member with own | ⟨field, there, inner⟩
    · exact .own own
    · exact (ih field there inner).field there rfl

theorem mem_references_iff {v : Json} {p : String} :
    p ∈ references v ↔ Written Json.everyKey v (.string p) := by
  constructor
  · exact written_of_mem_references
  · rintro ⟨fields, inside, member⟩
    generalize target : Json.object fields = w at inside
    induction inside with
    | here => exact target ▸ mem_referencesOfFields.mpr (Or.inl member)
    | item at_ _ ih => exact mem_referencesOfItems.mpr ⟨_, at_, ih target⟩
    | field at_ _ _ ih => exact mem_referencesOfFields.mpr (Or.inr ⟨_, at_, ih target⟩)

/-- What is written after a step was written before it or in the target of the reference followed. -/
theorem Unfolds.written (survives : ∀ key, Keyword.isStripped key = false → keep key = true)
    {v w x : Json} {label : List String} (unfolds : Unfolds document v label w)
    (written : Written keep w x) :
    Written keep v x ∨
      ∃ p ∈ label, ∃ upper, Leads document p upper ∧ Written keep (.object upper) x := by
  cases unfolds with
  | item member => exact Or.inl (written.item member)
  | field _ member =>
    obtain ⟨at_, plain⟩ := mem_kept.mp member
    exact Or.inl (written.field at_ (survives _ plain))
  | @follow fields upper p next leads =>
    rcases written_object_iff.mp written with own | ⟨field, at_, kept, inner⟩
    · rcases mem_splice own with ⟨_, apart⟩ | above
      · exact absurd rfl apart
      · exact Or.inr ⟨p, List.mem_singleton_self p, upper, leads, .own above⟩
    · rcases mem_splice at_ with ⟨below, _⟩ | above
      · exact Or.inl (inner.field below kept)
      · exact Or.inr ⟨p, List.mem_singleton_self p, upper, leads, inner.field above kept⟩

theorem Unfolds.label_written {v w : Json} {label : List String} {p : String}
    (unfolds : Unfolds document v label w) (member : p ∈ label) : Written keep v (.string p) := by
  cases unfolds with
  | follow next _ =>
    cases List.mem_singleton.mp member
    exact .own (Entries.mem_of_lookup next)
  | _ => cases member

theorem Unfolds.written_anywhere {v w x : Json} {label : List String}
    (unfolds : Unfolds document v label w) (written : Written Json.everyKey w x) :
    Written Json.everyKey v x ∨ Written Json.everyKey document x := by
  rcases unfolds.written (fun _ _ => rfl) written with before | ⟨_, _, _, leads, target⟩
  · exact Or.inl before
  · exact Or.inr (target.lift leads.inside)

theorem Reaches.written_anywhere {v w x : Json} {trail : List String}
    (reaches : Reaches document v trail w) (written : Written Json.everyKey w x) :
    Written Json.everyKey v x ∨ Written Json.everyKey document x := by
  induction reaches with
  | here => exact Or.inl written
  | step unfolds _ ih => exact (ih written).elim unfolds.written_anywhere Or.inr

theorem Reaches.trail_written {v w : Json} {trail : List String} {p : String}
    (reaches : Reaches document v trail w) (member : p ∈ trail) :
    Written Json.everyKey v (.string p) ∨ Written Json.everyKey document (.string p) := by
  induction reaches with
  | here => cases member
  | step unfolds _ ih =>
    rcases List.mem_append.mp member with label | later
    · exact Or.inl (unfolds.label_written label)
    · exact (ih later).elim unfolds.written_anywhere Or.inr

theorem Meets.written_anywhere {v x : Json} {trail : List String} (meets : Meets document v trail x) :
    Written Json.everyKey v x ∨ Written Json.everyKey document x := by
  obtain ⟨fields, reaches, next⟩ := meets
  exact reaches.written_anywhere (.own (Entries.mem_of_lookup next))

theorem mem_references_append {v : Json} {p : String}
    (written : Written Json.everyKey v (.string p) ∨ Written Json.everyKey document (.string p)) :
    p ∈ references v ++ references document :=
  List.mem_append.mpr (written.imp mem_references_iff.mpr mem_references_iff.mpr)

theorem Reaches.references_subset {v w : Json} {trail : List String}
    (reaches : Reaches document v trail w) :
    trail ++ references w ⊆ references v ++ references document := by
  intro p member
  rcases List.mem_append.mp member with followed | after
  · exact mem_references_append (reaches.trail_written followed)
  · exact mem_references_append (reaches.written_anywhere (mem_references_iff.mp after))

theorem Meets.references_subset {v : Json} {trail : List String} {p : String}
    (meets : Meets document v trail (.string p)) :
    trail ++ [p] ⊆ references v ++ references document := by
  have last := mem_references_append meets.written_anywhere
  obtain ⟨fields, reaches, _⟩ := meets
  have inside := List.append_subset.mp reaches.references_subset
  exact List.append_subset.mpr ⟨inside.1, List.cons_subset.mpr ⟨last, List.nil_subset _⟩⟩

end OperatorKit.Schema
