import Mathlib.Data.List.Forall2

/-!
Lists that are related element by element, and runs over a list that stop at the first error. A run
gives one result for each element, or the error of the first element that has one.
-/

namespace OperatorKit

section Related

variable {α β γ : Type} {R : α → β → Prop} {as : List α} {bs : List β} {a : α}

theorem exists_mem_of_forall₂ (each : List.Forall₂ R as bs) (member : a ∈ as) : ∃ b ∈ bs, R a b := by
  induction each with
  | nil => cases member
  | cons first _ ih =>
    rcases List.mem_cons.mp member with rfl | later
    · exact ⟨_, List.mem_cons_self, first⟩
    · obtain ⟨b, there, related⟩ := ih later
      exact ⟨b, List.mem_cons_of_mem _ there, related⟩

theorem exists_of_forall₂ (each : List.Forall₂ R as bs) (member : a ∈ as) : ∃ b, R a b := by
  obtain ⟨b, _, related⟩ := exists_mem_of_forall₂ each member
  exact ⟨b, related⟩

theorem forall₂_imp_of_mem {S : α → β → Prop} (each : List.Forall₂ R as bs)
    (related : ∀ a ∈ as, ∀ b ∈ bs, R a b → S a b) : List.Forall₂ S as bs := by
  induction each with
  | nil => exact .nil
  | @cons a b as bs first _ ih =>
    have here : S a b := related a List.mem_cons_self b List.mem_cons_self first
    have later : List.Forall₂ S as bs := by
      apply ih
      intro x member y also
      exact related x (List.mem_cons_of_mem _ member) y (List.mem_cons_of_mem _ also)
    exact .cons here later

theorem forall₂_unique {cs : List β} (unique : List.Forall₂ (fun a b => ∀ c, R a c → c = b) as bs)
    (also : List.Forall₂ R as cs) : cs = bs := by
  induction unique generalizing cs with
  | nil =>
    cases also
    rfl
  | cons first _ ih =>
    cases also with
    | cons here later => rw [first _ here, ih later]

theorem forall₂_comp {S : β → γ → Prop} {T : α → γ → Prop} {cs : List γ}
    (first : List.Forall₂ R as bs) (second : List.Forall₂ S bs cs)
    (related : ∀ a b c, R a b → S b c → T a c) : List.Forall₂ T as cs := by
  induction first generalizing cs with
  | nil =>
    cases second
    exact .nil
  | cons here _ ih =>
    cases second with
    | cons there later => exact .cons (related _ _ _ here there) (ih later)

theorem forall_mem_iff_of_forall₂ {P : α → Prop} {Q : β → Prop}
    (each : List.Forall₂ (fun a b => Q b ↔ P a) as bs) : (∀ b ∈ bs, Q b) ↔ ∀ a ∈ as, P a := by
  induction each with
  | nil => simp
  | cons first _ ih => rw [List.forall_mem_cons, List.forall_mem_cons, first, ih]

end Related

section Results

variable {α β ε : Type} {e : ε}

theorem ok_of_map {g : α → β} {result : Except ε α} {b : β} (mapped : result.map g = .ok b) :
    ∃ a, result = .ok a ∧ g a = b := by
  cases result with
  | error e => cases mapped
  | ok a =>
    cases mapped
    exact ⟨a, rfl, rfl⟩

theorem error_of_map {g : α → β} {result : Except ε α} (mapped : result.map g = .error e) :
    result = .error e := by
  cases result with
  | error e' =>
    cases mapped
    rfl
  | ok a => cases mapped

theorem map_ite {P : Prop} [Decidable P] (g : α → β) (a : α) :
    (if P then Except.ok a else .error e).map g = if P then .ok (g a) else .error e := by
  split <;> rfl

end Results

section Runs

variable {α β γ ε : Type} {f : α → Except ε β} {as : List α} {e : ε}

theorem mapM_cons_ok_iff {a : α} {bs : List β} :
    (a :: as).mapM f = .ok bs ↔ ∃ b rest, f a = .ok b ∧ as.mapM f = .ok rest ∧ bs = b :: rest := by
  rw [List.mapM_cons]
  constructor
  · intro run
    cases first : f a with
    | error e =>
      rw [first] at run
      cases run
    | ok b =>
      cases later : as.mapM f with
      | error e =>
        rw [first, later] at run
        cases run
      | ok rest =>
        rw [first, later] at run
        cases run
        exact ⟨b, rest, rfl, rfl, rfl⟩
  · rintro ⟨b, rest, first, later, rfl⟩
    rw [first, later]
    rfl

theorem mapM_cons_error_iff {a : α} :
    (a :: as).mapM f = .error e ↔
      f a = .error e ∨ (∃ b, f a = .ok b) ∧ as.mapM f = .error e := by
  rw [List.mapM_cons]
  cases f a with
  | error e' => simp [bind, Except.bind]
  | ok b => cases as.mapM f <;> simp [bind, Except.bind, pure, Except.pure]

theorem mapM_ok_iff {bs : List β} :
    as.mapM f = .ok bs ↔ List.Forall₂ (fun a b => f a = .ok b) as bs := by
  induction as generalizing bs with
  | nil =>
    rw [List.forall₂_nil_left_iff]
    exact ⟨fun run => (Except.ok.inj run).symm, fun none => none ▸ rfl⟩
  | cons a rest ih => simp only [mapM_cons_ok_iff, ih, List.forall₂_cons_left_iff]

theorem mapM_error_iff :
    as.mapM f = .error e ↔ ∃ before a after, as = before ++ a :: after ∧
      (∀ x ∈ before, ∃ b, f x = .ok b) ∧ f a = .error e := by
  induction as with
  | nil =>
    constructor
    · intro run
      cases run
    · rintro ⟨before, a, after, split, _⟩
      cases before <;> cases split
  | cons a rest ih =>
    rw [mapM_cons_error_iff, ih]
    constructor
    · rintro (fails | ⟨done, before, x, after, rfl, all, fails⟩)
      · exact ⟨[], a, rest, rfl, List.forall_mem_nil _, fails⟩
      · exact ⟨a :: before, x, after, rfl, List.forall_mem_cons.mpr ⟨done, all⟩, fails⟩
    · rintro ⟨before, x, after, split, all, fails⟩
      cases before with
      | nil =>
        cases split
        exact Or.inl fails
      | cons y before =>
        cases split
        obtain ⟨done, later⟩ := List.forall_mem_cons.mp all
        exact Or.inr ⟨done, before, x, after, rfl, later, fails⟩

theorem exists_error_of_mapM (run : as.mapM f = .error e) : ∃ a ∈ as, f a = .error e := by
  obtain ⟨before, a, after, rfl, _, fails⟩ := mapM_error_iff.mp run
  exact ⟨a, List.mem_append_right before List.mem_cons_self, fails⟩

theorem mapM_eq_of_forall₂ {g : γ → Except ε β} {cs : List γ}
    (same : List.Forall₂ (fun a c => f a = g c) as cs) : as.mapM f = cs.mapM g := by
  induction same with
  | nil => rfl
  | cons first _ ih => rw [List.mapM_cons, List.mapM_cons, first, ih]

theorem mapM_of_bounded {g : α → β} {P : α → Prop} [DecidablePred P]
    (each : ∀ a ∈ as, f a = if P a then .ok (g a) else .error e) :
    as.mapM f = if ∀ a ∈ as, P a then .ok (as.map g) else .error e := by
  induction as with
  | nil => rfl
  | cons a rest ih =>
    obtain ⟨first, later⟩ := List.forall_mem_cons.mp each
    rw [List.mapM_cons, first, ih later]
    by_cases here : P a
    · by_cases there : ∀ b ∈ rest, P b
      · simp only [if_pos here, if_pos there, if_pos (List.forall_mem_cons.mpr ⟨here, there⟩)]
        rfl
      · have apart : ¬ ∀ b ∈ a :: rest, P b := fun all => there (List.forall_mem_cons.mp all).2
        simp only [if_pos here, if_neg there, if_neg apart]
        rfl
    · have apart : ¬ ∀ b ∈ a :: rest, P b := fun all => here (List.forall_mem_cons.mp all).1
      simp only [if_neg here, if_neg apart]
      rfl

end Runs

end OperatorKit
