import OperatorKit.Text.Split

/-!
The pieces between marks. Cutting here is cutting a list wherever a predicate holds, so that a text
without marks is one piece and a mark between two texts leaves their pieces side by side.
-/

namespace OperatorKit.Text

variable {mark : Char → Bool} {front back text : List Char}

theorem cutAt_eq_splitOnP (mark : Char → Bool) (text : List Char) :
    cutAt mark text = text.splitOnP mark := by
  induction text with
  | nil => rfl
  | cons c rest ih =>
    rw [cutAt, ih, List.splitOnP_cons_eq_if_modifyHead]
    cases pieces : rest.splitOnP mark with
    | nil => exact absurd pieces (List.splitOnP_ne_nil mark rest)
    | cons piece more => rfl

theorem cutAt_of_plain (plain : ∀ c ∈ text, mark c = false) : cutAt mark text = [text] := by
  rw [cutAt_eq_splitOnP]
  exact List.splitOnP_eq_singleton plain

theorem cutAt_append (plain : ∀ c ∈ front, mark c = false) :
    cutAt mark (front ++ back) = (cutAt mark back).modifyHead (front ++ ·) := by
  rw [cutAt_eq_splitOnP, cutAt_eq_splitOnP]
  induction front with
  | nil => exact (congrFun List.modifyHead_id _).symm
  | cons c rest ih =>
    obtain ⟨first, others⟩ := List.forall_mem_cons.mp plain
    rw [List.cons_append, List.splitOnP_cons_eq_if_modifyHead, first, if_neg Bool.false_ne_true,
      ih others, List.modifyHead_modifyHead]
    rfl

theorem cutAt_append_cons {c : Char} (marked : mark c = true) :
    cutAt mark (front ++ c :: back) = cutAt mark front ++ cutAt mark back := by
  rw [cutAt_eq_splitOnP, cutAt_eq_splitOnP, cutAt_eq_splitOnP]
  exact List.splitOnP_append_cons front back marked

theorem length_cutAt (mark : Char → Bool) (text : List Char) :
    (cutAt mark text).length = text.countP mark + 1 := by
  rw [cutAt_eq_splitOnP]
  induction text with
  | nil => rfl
  | cons c rest ih =>
    rw [List.splitOnP_cons_eq_if_modifyHead, List.countP_cons]
    split
    · rw [List.length_cons, ih]
    · rw [List.length_modifyHead, ih, Nat.add_zero]

section First

variable {sign : Char}

theorem splitFirst_eq_some_iff :
    splitFirst sign text = some (front, back) ↔ text = front ++ sign :: back ∧ sign ∉ front := by
  induction text generalizing front with
  | nil => simp [splitFirst]
  | cons c rest ih =>
    rw [splitFirst]
    by_cases here : c = sign
    · cases front with
      | nil => simp [here]
      | cons d front =>
        simp only [here, if_pos, Option.some.injEq, Prod.mk.injEq, List.cons_append, List.cons.injEq,
          List.mem_cons, not_or]
        constructor
        · rintro ⟨⟨⟩, _⟩
        · rintro ⟨⟨rfl, _⟩, apart, _⟩
          exact absurd rfl apart
    · simp only [if_neg here, Option.map_eq_some_iff, Prod.mk.injEq, Prod.exists]
      constructor
      · rintro ⟨before, after, found, rfl, rfl⟩
        obtain ⟨rfl, plain⟩ := ih.mp found
        exact ⟨rfl, List.not_mem_cons_of_ne_of_not_mem (Ne.symm here) plain⟩
      · rintro ⟨same, plain⟩
        cases front with
        | nil => exact absurd (List.cons.inj same).1 here
        | cons d front =>
          obtain ⟨rfl, rfl⟩ := List.cons.inj same
          exact ⟨front, back, ih.mpr ⟨rfl, List.not_mem_of_not_mem_cons plain⟩, rfl, rfl⟩

theorem splitFirst_eq_none_iff : splitFirst sign text = none ↔ sign ∉ text := by
  induction text with
  | nil => simp [splitFirst]
  | cons c rest ih =>
    rw [splitFirst, List.mem_cons]
    by_cases here : c = sign
    · simp [here]
    · simp [here, Ne.symm here, ih]

end First

end OperatorKit.Text
