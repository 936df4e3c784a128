import Mathlib.Data.List.Dedup
import Mathlib.Data.List.Perm.Subperm
import OperatorKit.Proofs.Schema.Run
import OperatorKit.Proofs.Schema.Written

/-!
Why a run fails: the limit on depth is reached, or unfolding meets a reference that cannot be entered
with the stack at that place. The bound on the length of a chain is no third reason: the references
on the stack are distinct and written in the value or the document, so they run out before the bound
does.
-/

namespace OperatorKit

def SchemaError.isLocal : SchemaError → Bool
  | .circular _ => false
  | .tooDeep _ => false
  | _ => true

namespace Schema

variable {document : Json} {limit more levels : Nat} {stack : Stack}

theorem ofString_error {p : String} {e : SchemaError} (run : Reference.ofString p = .error e) :
    e.isLocal = true := by
  unfold Reference.ofString at run
  split at run
  · dsimp only at run
    split at run
    · cases run
      rfl
    · cases run
  · cases run
    rfl

theorem reference_error {x : Json} {e : SchemaError} (run : reference x = .error e) :
    e.isLocal = true := by
  cases x with
  | string p => exact ofString_error run
  | _ =>
    cases run
    rfl

theorem target_error {r : Reference} {e : SchemaError} (run : target document r = .error e) :
    e.isLocal = true := by
  unfold target Json.lookup at run
  cases hit : (document.directory? r).bind (·.lookup r.key) with
  | none =>
    simp only [hit, Except.error.injEq] at run
    exact run ▸ rfl
  | some v =>
    cases v with
    | object fields => simp only [hit, reduceCtorEq] at run
    | _ =>
      simp only [hit, Except.error.injEq] at run
      exact run ▸ rfl

theorem enter_error {x : Json} {e : SchemaError} (run : enter document stack x = .error e) :
    (∃ p ∈ stack, x = .string p ∧ e = .circular (stack ++ [p])) ∨ e.isLocal = true := by
  unfold enter at run
  split at run
  · rename_i e' parsed
    cases run
    exact Or.inr (reference_error parsed)
  · rename_i r parsed
    split at run
    · rename_i known
      cases run
      cases x with
      | string p =>
        have same := text_ofString parsed
        exact Or.inl ⟨p, same ▸ List.contains_iff_mem.mp known, rfl, same ▸ rfl⟩
      | _ => cases parsed
    · exact Or.inr (target_error (error_of_map run))

theorem enter_of_leads {p : String} {upper : Fields} {e : SchemaError}
    (leads : Leads document p upper) (run : enter document stack (.string p) = .error e) :
    p ∈ stack ∧ e = .circular (stack ++ [p]) := by
  obtain ⟨r, parsed, found⟩ := leads
  have same := text_ofString parsed
  simp only [enter, reference, parsed, target, found, same] at run
  split at run
  · rename_i known
    cases run
    exact ⟨List.contains_iff_mem.mp known, rfl⟩
  · cases run

theorem inline_error {fields : Fields} {e : SchemaError}
    (run : (inline document more fields stack).1 = .error e) :
    (∃ trail x, Meets document (.object fields) trail x ∧
      (stack.Nodup → (stack ++ trail).Nodup) ∧ enter document (stack ++ trail) x = .error e) ∨
    ∃ trail p, Meets document (.object fields) trail (.string p) ∧ trail.length = more ∧
      (stack.Nodup → (stack ++ trail ++ [p]).Nodup) ∧ e = .circular (stack ++ trail ++ [p]) := by
  induction more generalizing fields stack with
  | zero =>
    unfold inline at run
    split at run
    · cases run
    · rename_i x next
      split at run
      · rename_i e' entered
        cases run
        exact Or.inl ⟨[], x, ⟨fields, .here, next⟩, by simp, by simpa using entered⟩
      · rename_i r upper entered
        obtain ⟨rfl, _, _⟩ := enter_ok entered
        cases run
        refine Or.inr ⟨[], r.text, ⟨fields, .here, next⟩, rfl, ?_, by simp⟩
        intro nodup
        simpa using nodup_of_enter entered nodup
  | succ more ih =>
    unfold inline at run
    split at run
    · cases run
    · rename_i x next
      split at run
      · rename_i e' entered
        cases run
        exact Or.inl ⟨[], x, ⟨fields, .here, next⟩, by simp, by simpa using entered⟩
      · rename_i r upper entered
        obtain ⟨rfl, _, leads⟩ := enter_ok entered
        have first := Unfolds.reaches (.follow next leads)
        rcases ih run with
          ⟨trail, x, meets, distinct, fails⟩ | ⟨trail, p, meets, long, distinct, same⟩
        · refine Or.inl ⟨[r.text] ++ trail, x, first.meets meets, ?_, by simpa using fails⟩
          intro nodup
          simpa using distinct (nodup_of_enter entered nodup)
        · refine Or.inr ⟨[r.text] ++ trail, p, first.meets meets, by simp [long], ?_,
            by simpa using same⟩
          intro nodup
          simpa using distinct (nodup_of_enter entered nodup)

theorem inline_ne_tooDeep {fields : Fields} {n : Nat} :
    (inline document more fields stack).1 ≠ .error (.tooDeep n) := by
  intro run
  rcases inline_error run with ⟨_, _, _, _, fails⟩ | ⟨_, _, _, _, _, same⟩
  · rcases enter_error fails with ⟨_, _, _, same⟩ | isLocal
    · cases same
    · cases isLocal
  · cases same

/-- A run may follow any reference once: no more are written in the value and the document together
than the bound on a chain allows, and the stack holds some of them. -/
structure Fits (document : Json) (more : Nat) (stack : Stack) (v : Json) (pool : List String) :
    Prop where
  enough : pool.length ≤ more
  distinct : stack.Nodup
  known : stack ⊆ pool
  written : references v ++ references document ⊆ pool

theorem Fits.reaches {v w : Json} {trail pool : List String} (fits : Fits document more stack v pool)
    (reaches : Reaches document v trail w) (distinct : (stack ++ trail).Nodup) :
    Fits document more (stack ++ trail) w pool := by
  have inside := List.Subset.trans reaches.references_subset fits.written
  refine ⟨fits.enough, distinct, ?_, ?_⟩
  · exact List.append_subset.mpr
      ⟨fits.known, List.Subset.trans (List.subset_append_left _ _) inside⟩
  · exact List.append_subset.mpr ⟨List.Subset.trans (List.subset_append_right _ _) inside,
      List.Subset.trans (List.subset_append_right _ _) fits.written⟩

theorem Fits.item {vs : List Json} {v : Json} {pool : List String}
    (fits : Fits document more stack (.array vs) pool) (member : v ∈ vs) :
    Fits document more stack v pool := by
  have below := fits.reaches (Unfolds.reaches (.item member)) (by simpa using fits.distinct)
  rwa [List.append_nil] at below

theorem Fits.field {fields merged : Fields} {inner : Stack} {field : String × Json}
    {pool : List String} (fits : Fits document more stack (.object fields) pool)
    (inlined : inline document more fields stack = (.ok merged, inner))
    (member : field ∈ kept merged) : Fits document more inner field.2 pool := by
  obtain ⟨links, chain, rfl, extend⟩ := inline_ok inlined
  exact fits.reaches (chain.reaches_field member) (extend fits.distinct)

theorem Fits.start (document node : Json) :
    Fits document (references node ++ references document).length [] node
      (references node ++ references document).dedup where
  enough := (List.dedup_sublist _).length_le
  distinct := List.nodup_nil
  known := List.nil_subset _
  written := List.subset_dedup _

theorem Fits.length_le {v : Json} {pool : List String} (fits : Fits document more stack v pool) :
    stack.length ≤ pool.length :=
  (List.subperm_of_subset fits.distinct fits.known).length_le

theorem Fits.inline_error {fields : Fields} {e : SchemaError} {pool : List String}
    (fits : Fits document more stack (.object fields) pool)
    (run : (inline document more fields stack).1 = .error e) :
    ∃ trail x, Meets document (.object fields) trail x ∧ (stack ++ trail).Nodup ∧
      enter document (stack ++ trail) x = .error e := by
  rcases Schema.inline_error run with
    ⟨trail, x, meets, distinct, broken⟩ | ⟨trail, p, meets, long, distinct, _⟩
  · exact ⟨trail, x, meets, distinct fits.distinct, broken⟩
  · have inside : stack ++ trail ++ [p] ⊆ pool := by
      rw [List.append_assoc]
      exact List.append_subset.mpr
        ⟨fits.known, List.Subset.trans meets.references_subset fits.written⟩
    have bound := (List.subperm_of_subset (distinct fits.distinct) inside).length_le
    have enough := fits.enough
    simp only [List.length_append, List.length_singleton] at bound
    omega

/-- A run that fails has reached the limit or has met a reference that cannot be entered there, after
references that are all different. -/
theorem resolveValue_error {v : Json} {e : SchemaError} {pool : List String}
    (fits : Fits document more stack v pool)
    (run : (resolveValue document limit more levels v stack).1 = .error e) :
    e = .tooDeep limit ∨
      ∃ trail x, Meets document v trail x ∧ (stack ++ trail).Nodup ∧
        enter document (stack ++ trail) x = .error e := by
  induction levels generalizing v stack with
  | zero =>
    cases run
    exact Or.inl rfl
  | succ levels ih =>
    cases v with
    | array vs =>
      obtain ⟨v, member, fails⟩ := resolveValue_array_error run
      have first : Reaches document (.array vs) [] v := Unfolds.reaches (.item member)
      refine (ih (fits.item member) fails).imp_right ?_
      rintro ⟨trail, x, meets, fresh, broken⟩
      exact ⟨[] ++ trail, x, first.meets meets, fresh, broken⟩
    | object fields =>
      rcases resolveValue_object_error run with
        broken | ⟨links, merged, field, chain, distinct, member, fails⟩
      · exact Or.inr (fits.inline_error broken)
      · have first := chain.reaches_field member
        refine (ih (fits.reaches first (distinct fits.distinct)) fails).imp_right ?_
        rintro ⟨trail, x, meets, fresh, broken⟩
        exact ⟨_, x, first.meets meets, List.append_assoc .. ▸ fresh, List.append_assoc .. ▸ broken⟩
    | _ =>
      rw [resolveValue_scalar ⟨rfl, rfl⟩] at run
      cases run

/-- Where a run succeeds, every reference that unfolding meets leads somewhere and is new there. -/
theorem resolveValue_ok_meets {v r x : Json} {trail : List String}
    (run : (resolveValue document limit more levels v stack).1 = .ok r) (distinct : stack.Nodup)
    (meets : Meets document v trail x) :
    ∃ p upper, x = .string p ∧ p ∉ stack ++ trail ∧ Leads document p upper := by
  induction levels generalizing v stack r trail with
  | zero => cases run
  | succ levels ih =>
    cases v with
    | array vs =>
      obtain ⟨rs, _, items⟩ := resolveValue_array_ok run
      obtain ⟨final, reaches, met⟩ := meets
      cases reaches with
      | step unfolds inner =>
        cases unfolds with
        | item member =>
          obtain ⟨r', resolved⟩ := exists_of_forall₂ items member
          exact ih resolved distinct ⟨final, inner, met⟩
    | object fields =>
      obtain ⟨links, merged, rs, chain, extend, _, values⟩ := resolveValue_object_ok run
      rcases chain.meets_cases meets with
        ⟨before, p, upper, after, rfl, rfl, rfl⟩ | ⟨field, member, rest, rfl, below⟩
      · refine ⟨p, upper, rfl, ?_, chain.leads (List.mem_append_right _ List.mem_cons_self)⟩
        have whole := extend distinct
        rw [List.map_append, List.map_cons, ← List.append_assoc] at whole
        exact fun known => (List.nodup_append.mp whole).2.2 p known p List.mem_cons_self rfl
      · obtain ⟨_, _, resolved⟩ := exists_of_forall₂ values member
        obtain ⟨p, upper, same, fresh, leads⟩ := ih resolved (extend distinct) below
        exact ⟨p, upper, same, List.append_assoc .. ▸ fresh, leads⟩
    | _ =>
      obtain ⟨final, reaches, _⟩ := meets
      cases reaches with
      | step unfolds _ => cases unfolds

end Schema

end OperatorKit
