import OperatorKit.Proofs.Json.Reordered
import OperatorKit.Proofs.Schema.CutOff

/-!
When a schema resolves: each reference that unfolding meets leads to an object and has not been
followed on the way to it, and the meaning of the schema nests no deeper than the limit. Nothing in
this speaks of a run, so that two schemas can be compared by the references that are met below them
and by their meanings.
-/

namespace OperatorKit.Schema

open Json (OnKey)

def Passable (document node : Json) : Prop :=
  ∀ trail x, Meets document node trail x →
    ∃ p upper, x = .string p ∧ p ∉ trail ∧ Leads document p upper

/-- Unfolding a value keeps up with unfolding those it is related to: it comes to values that are
related again after no fewer references, and to the same references. -/
structure KeepsUp (document : Json) (R : Json → Json → Prop) : Prop where
  step {v w w' : Json} {label : List String} : R v w → Unfolds document w label w' →
    ∃ trail v', Reaches document v trail v' ∧ label ⊆ trail ∧ R v' w'
  meets {v y : Json} {others : Fields} : R v (.object others) →
    others.lookup Keyword.reference = some y →
      ∃ trail x, Meets document v trail x ∧ ∀ p, x = .string p → y = .string p

variable {document node v w : Json} {R : Json → Json → Prop}

theorem KeepsUp.exists_meets {trail : List String} {y : Json} (keepsUp : KeepsUp document R)
    (related : R v w) (met : Meets document w trail y) :
    ∃ longer x, Meets document v longer x ∧ trail ⊆ longer ∧ ∀ p, x = .string p → y = .string p := by
  obtain ⟨others, reaches, next⟩ := met
  generalize finish : Json.object others = final at reaches
  induction reaches generalizing v with
  | here =>
    subst finish
    obtain ⟨longer, x, meets, same⟩ := keepsUp.meets related next
    exact ⟨longer, x, meets, List.nil_subset _, same⟩
  | step unfolds _ ih =>
    obtain ⟨first, v', reaches, inside, related'⟩ := keepsUp.step related unfolds
    obtain ⟨second, x, meets, inside', same⟩ := ih related' finish
    have whole := List.append_subset.mpr ⟨List.subset_append_of_subset_left second inside,
      List.subset_append_of_subset_right first inside'⟩
    exact ⟨first ++ second, x, reaches.meets meets, whole, same⟩

theorem KeepsUp.passable (keepsUp : KeepsUp document R) (related : R v w)
    (passable : Passable document v) : Passable document w := by
  intro trail y met
  obtain ⟨longer, x, meets, inside, same⟩ := keepsUp.exists_meets related met
  obtain ⟨p, upper, text, fresh, leads⟩ := passable longer x meets
  exact ⟨p, upper, same p text, fun known => fresh (inside known), leads⟩

/-- Nothing but the limit can stop the run on a schema whose references can all be followed. -/
theorem Passable.resolves {limit : Nat} (passable : Passable document node)
    (enough : depthBound document node ≤ limit) : ∃ r, resolve document limit node = .ok r := by
  cases run : resolve document limit node with
  | ok r => exact ⟨r, rfl⟩
  | error e =>
    rcases resolve_error run with rfl | ⟨trail, x, meets, refused⟩
    · exact absurd run (resolve_ne_tooDeep enough limit)
    · obtain ⟨p, upper, rfl, fresh, leads⟩ := passable trail x meets
      exact absurd (enter_of_leads leads refused).1 fresh

theorem passable_of_resolve {limit : Nat} {r : Json} (run : resolve document limit node = .ok r) :
    Passable document node :=
  fun _ _ meets => resolveValue_ok_meets run List.nodup_nil meets

theorem resolve_ok_iff {limit : Nat} {r : Json} : resolve document limit node = .ok r ↔
    Passable document node ∧ Means document node r ∧ r.height ≤ limit := by
  constructor
  · intro run
    exact ⟨passable_of_resolve run, means_of_resolveValue run,
      Nat.le_of_lt_succ (height_lt_of_resolveValue run)⟩
  · rintro ⟨passable, means, low⟩
    have enough := Nat.le_max_right limit (depthBound document node)
    obtain ⟨r', run⟩ := passable.resolves enough
    cases means.unique r' (means_of_resolveValue run)
    rcases resolve_cutOff document node limit _ (Nat.le_max_left _ _) with stopped | same
    · exact absurd (le_height_of_tooDeep stopped run) (Nat.not_le_of_lt (Nat.lt_succ_of_le low))
    · exact same.trans run

theorem means_object_iff {fields : Fields} {r : Json} : Means document (.object fields) r ↔
    ∃ links merged results, Chain document fields links merged ∧ r = .object results ∧
      List.Forall₂ (OnKey (Means document)) (kept merged) results := by
  constructor
  · intro means
    cases means with
    | scalar plain => cases plain.1
    | @object _ merged results links chain keys values =>
      rw [← chain.merged_eq] at keys values
      exact ⟨links, merged, results, chain, rfl, Json.onKey_iff.mpr ⟨keys, values⟩⟩
  · rintro ⟨links, merged, results, chain, rfl, pairs⟩
    obtain ⟨keys, values⟩ := Json.onKey_iff.mp pairs
    rw [chain.merged_eq] at keys values
    exact .object chain keys values

theorem exists_fields_of_resolve {fields : Fields} {r : Json} {limit : Nat}
    (run : resolve document limit (.object fields) = .ok r) : ∃ results, r = .object results := by
  obtain ⟨_, _, results, _, same, _⟩ := means_object_iff.mp (means_of_resolveValue run)
  exact ⟨results, same⟩

end OperatorKit.Schema
