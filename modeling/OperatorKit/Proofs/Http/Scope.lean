import OperatorKit.Http.Scope

/-!
Which scope decides for a URL: one that the URL begins with, and no longer one is there. There is
none if and only if the URL begins with no scope at all.
-/

namespace OperatorKit.Scopes

structure Longest (scopes : Scopes) (url : String) (entry : String × Credentials) : Prop where
  member : entry ∈ scopes
  covers : covers entry.1 url = true
  longest : ∀ other ∈ scopes, Scopes.covers other.1 url = true → other.1.length ≤ entry.1.length

variable {scopes : Scopes} {url : String} {entry : String × Credentials}

theorem longest?_eq_none_iff :
    longest? url scopes = none ↔ ∀ entry ∈ scopes, covers entry.1 url = false := by
  induction scopes with
  | nil => simp [longest?]
  | cons head rest ih =>
    rw [List.forall_mem_cons, ← ih, longest?]
    cases longest? url rest with
    | none => cases covers head.1 url <;> simp
    | some other =>
      simp only [reduceCtorEq, and_false, iff_false]
      split <;> simp

theorem longest_of_longest? (found : longest? url scopes = some entry) :
    scopes.Longest url entry := by
  induction scopes generalizing entry with
  | nil => cases found
  | cons head rest ih =>
    cases later : longest? url rest with
    | none =>
      simp only [longest?, later, Option.ite_none_right_eq_some, Option.some.injEq] at found
      obtain ⟨covered, rfl⟩ := found
      refine ⟨List.mem_cons_self, covered, fun other member also => ?_⟩
      rcases List.mem_cons.mp member with rfl | behind
      · exact Nat.le_refl _
      · rw [longest?_eq_none_iff.mp later other behind] at also
        cases also
    | some best =>
      have known := ih later
      by_cases better : covers head.1 url && best.1.length < head.1.length
      · simp only [longest?, later, if_pos better, Option.some.injEq] at found
        obtain rfl := found
        simp only [Bool.and_eq_true, decide_eq_true_eq] at better
        refine ⟨List.mem_cons_self, better.1, fun other member also => ?_⟩
        rcases List.mem_cons.mp member with rfl | behind
        · exact Nat.le_refl _
        · exact Nat.le_trans (known.longest other behind also) (Nat.le_of_lt better.2)
      · simp only [longest?, later, if_neg better, Option.some.injEq] at found
        obtain rfl := found
        refine ⟨List.mem_cons_of_mem _ known.member, known.covers, fun other member also => ?_⟩
        rcases List.mem_cons.mp member with rfl | behind
        · simp only [also, Bool.true_and, decide_eq_true_eq] at better
          exact Nat.le_of_not_lt better
        · exact known.longest other behind also

theorem credentials?_eq_none_iff :
    scopes.credentials? url = none ↔ ∀ entry ∈ scopes, covers entry.1 url = false := by
  rw [credentials?, Option.map_eq_none_iff, longest?_eq_none_iff]

theorem longest_of_credentials? {c : Credentials} (found : scopes.credentials? url = some c) :
    ∃ scope, scopes.Longest url (scope, c) := by
  obtain ⟨⟨scope, _⟩, best, rfl⟩ := Option.map_eq_some_iff.mp found
  exact ⟨scope, longest_of_longest? best⟩

end OperatorKit.Scopes
