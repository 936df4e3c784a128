import OperatorKit.Json.Reading
import OperatorKit.Proofs.Json.Reordered
import OperatorKit.Proofs.Schema.Run

/-!
What is read off a text. Of a key that is written more than once an object keeps one place and one
value, so no value that is read has an object with the same key twice.
-/

namespace OperatorKit.Json

variable {fuel depth : Nat} {first : Bool} {input rest : List Symbol}

theorem value_ok {v : Json} (run : value (fuel + 1) depth input = .ok (v, rest)) :
    (v.fields? = none ∧ v.items? = none) ∨
    (∃ vs depth input, v = .array vs ∧ items fuel depth true input = .ok (vs, rest)) ∨
    ∃ fields depth input, v = .object (Entries.ofList fields) ∧
      members fuel depth true input = .ok (fields, rest) := by
  unfold value at run
  split at run
  · cases run
  · split at run
    case h_6 =>
      split at run
      · cases run
      · obtain ⟨⟨vs, after⟩, read, same⟩ := ok_of_map run
        cases same
        exact Or.inr (Or.inl ⟨vs, _, _, rfl, read⟩)
    case h_7 =>
      split at run
      · cases run
      · obtain ⟨⟨fields, after⟩, read, same⟩ := ok_of_map run
        cases same
        exact Or.inr (Or.inr ⟨fields, _, _, rfl, read⟩)
    case h_8 =>
      split at run
      · obtain ⟨_, _, same⟩ := ok_of_map run
        cases same
        exact Or.inl ⟨rfl, rfl⟩
      · cases run
    all_goals
      obtain ⟨_, _, same⟩ := ok_of_map run
      cases same
      exact Or.inl ⟨rfl, rfl⟩

theorem items_ok {vs : List Json} (run : items (fuel + 1) depth first input = .ok (vs, rest)) :
    vs = [] ∨ ∃ v others input after, vs = v :: others ∧ value fuel depth input = .ok (v, after) ∧
      items fuel depth false after = .ok (others, rest) := by
  unfold items at run
  split at run
  · cases run
  · cases run
    exact Or.inl rfl
  · split at run
    · cases run
    · rename_i v after read
      obtain ⟨⟨others, last⟩, more, same⟩ := ok_of_map run
      cases same
      exact Or.inr ⟨v, others, _, after, rfl, read, more⟩

theorem members_ok {fields : Fields}
    (run : members (fuel + 1) depth first input = .ok (fields, rest)) :
    fields = [] ∨ ∃ key v others input after, fields = (key, v) :: others ∧
      value fuel depth input = .ok (v, after) ∧
      members fuel depth false after = .ok (others, rest) := by
  unfold members at run
  split at run
  · cases run
  · cases run
    exact Or.inl rfl
  · split at run
    · cases run
    · split at run
      · cases run
      · rename_i v after read
        obtain ⟨⟨others, last⟩, more, same⟩ := ok_of_map run
        cases same
        exact Or.inr ⟨_, v, others, _, after, rfl, read, more⟩

theorem distinct_ofList {fields : Fields} (below : ∀ field ∈ fields, field.2.Distinct) :
    Distinct (.object (Entries.ofList fields)) := by
  refine throughout_object_iff.mpr ⟨Entries.nodup_overlay List.nodup_nil, fun field member => ?_⟩
  rcases Entries.mem_overlay member with before | written
  · cases before
  · exact below field written

theorem distinct_of_read :
    (∀ depth input v rest, value fuel depth input = .ok (v, rest) → v.Distinct) ∧
    (∀ depth first input vs rest, items fuel depth first input = .ok (vs, rest) →
      ∀ v ∈ vs, v.Distinct) ∧
    (∀ depth first input fields rest, members fuel depth first input = .ok (fields, rest) →
      ∀ field ∈ fields, field.2.Distinct) := by
  induction fuel with
  | zero =>
    refine ⟨fun _ _ _ _ run => ?_, fun _ _ _ _ _ run => ?_, fun _ _ _ _ _ run => ?_⟩
    · simp [value] at run
    · simp [items] at run
    · simp [members] at run
  | succ fuel ih =>
    obtain ⟨ofValue, ofItems, ofMembers⟩ := ih
    refine ⟨fun _ _ v _ run => ?_, fun _ _ _ vs _ run => ?_, fun _ _ _ fields _ run => ?_⟩
    · rcases value_ok run with plain | ⟨vs, _, _, rfl, read⟩ | ⟨fields, _, _, rfl, read⟩
      · exact throughout_scalar plain
      · exact throughout_array_iff.mpr (ofItems _ _ _ _ _ read)
      · exact distinct_ofList (ofMembers _ _ _ _ _ read)
    · rcases items_ok run with rfl | ⟨v, others, _, _, rfl, read, more⟩
      · exact List.forall_mem_nil _
      · exact List.forall_mem_cons.mpr ⟨ofValue _ _ _ _ read, ofItems _ _ _ _ _ more⟩
    · rcases members_ok run with rfl | ⟨key, v, others, _, _, rfl, read, more⟩
      · exact List.forall_mem_nil _
      · exact List.forall_mem_cons.mpr ⟨ofValue _ _ _ _ read, ofMembers _ _ _ _ _ more⟩

/-- Whatever text it is read off, a value has each key of an object once. -/
theorem parse_distinct {text : String} {v : Json} (read : parse text = .ok v) : v.Distinct := by
  unfold parse parseSymbols whole at read
  split at read
  · cases read
  · rename_i w rest taken
    split at read
    · cases read
      exact distinct_of_read.1 _ _ _ _ taken
    · cases read

end OperatorKit.Json
