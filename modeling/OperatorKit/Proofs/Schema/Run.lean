import OperatorKit.Proofs.Data.Lists
import OperatorKit.Proofs.Schema.Unfolding

/-!
What a run of the resolver does to its stack and what it gives. A step that succeeds leaves the stack
as it found it, so every item and every field of a value is resolved under one stack: the one at its
entry, with the references of its own chain behind it.
-/

namespace OperatorKit.Schema

section Lists

variable {α β : Type}

def Restores (step : α → Stack → Step β) : Prop :=
  ∀ a stack b after, step a stack = (.ok b, after) → after = stack

variable {step : α → Stack → Step β}

theorem each_restores (restores : Restores step) : Restores (each step) := by
  intro as stack bs after run
  induction as generalizing bs after with
  | nil =>
    cases run
    rfl
  | cons a rest ih =>
    simp only [each] at run
    split at run
    · cases run
    · rename_i b middle first
      cases restores _ _ _ _ first
      split at run
      · cases run
      · rename_i others final later
        cases run
        exact ih _ _ later

/-- Since the stack is restored in between, all elements see the one at the start. -/
theorem each_value (restores : Restores step) (as : List α) (stack : Stack) :
    (each step as stack).1 = as.mapM fun a => (step a stack).1 := by
  induction as with
  | nil => rfl
  | cons a rest ih =>
    rw [List.mapM_cons, ← ih]
    simp only [each]
    cases first : step a stack with
    | mk result middle =>
      cases result with
      | error e => rfl
      | ok b =>
        cases restores _ _ _ _ first
        cases later : each step rest stack with
        | mk others final =>
          simp only [later]
          cases others <;> rfl

end Lists

theorem onField_restores {step : Json → Stack → Step Json} (restores : Restores step) :
    Restores (onField step) := by
  intro field stack b after run
  simp only [onField] at run
  split at run
  · cases run
  · rename_i v final value
    cases run
    exact restores _ _ _ _ value

theorem onField_value (step : Json → Stack → Step Json) (field : String × Json) (stack : Stack) :
    (onField step field stack).1 = (step field.2 stack).1.map fun v => (field.1, v) := by
  simp only [onField]
  cases step field.2 stack with
  | mk result after => cases result <;> rfl

variable {document : Json} {limit more levels : Nat} {stack : Stack}

theorem enter_ok {x : Json} {r : Reference} {upper : Fields}
    (entered : enter document stack x = .ok (r, upper)) :
    x = .string r.text ∧ r.text ∉ stack ∧ Leads document r.text upper := by
  unfold enter reference target at entered
  cases x with
  | string p =>
    cases parsed : Reference.ofString p with
    | error e => simp only [parsed, reduceCtorEq] at entered
    | ok s =>
      have same := text_ofString parsed
      simp only [parsed, same] at entered
      split at entered
      · cases entered
      · rename_i absent
        split at entered
        · simp [Except.map] at entered
        · rename_i found
          cases entered
          refine ⟨same ▸ rfl, ?_, _, same ▸ parsed, found⟩
          simpa [same] using absent
        · simp [Except.map] at entered
  | _ => simp at entered

theorem nodup_of_enter {x : Json} {r : Reference} {upper : Fields}
    (entered : enter document stack x = .ok (r, upper)) (distinct : stack.Nodup) :
    (stack ++ [r.text]).Nodup := by
  obtain ⟨_, fresh, _⟩ := enter_ok entered
  exact List.concat_eq_append ▸ distinct.concat fresh

theorem inline_ok {fields merged : Fields} {inner : Stack}
    (run : inline document more fields stack = (.ok merged, inner)) :
    ∃ links, Chain document fields links merged ∧ inner = stack ++ links.map (·.1) ∧
      (stack.Nodup → inner.Nodup) := by
  induction more generalizing fields stack with
  | zero =>
    unfold inline at run
    split at run
    · rename_i free
      cases run
      exact ⟨[], .done free, by simp, id⟩
    · split at run <;> cases run
  | succ more ih =>
    unfold inline at run
    split at run
    · rename_i free
      cases run
      exact ⟨[], .done free, by simp, id⟩
    · rename_i x next
      split at run
      · cases run
      · rename_i r upper entered
        obtain ⟨rfl, _, leads⟩ := enter_ok entered
        obtain ⟨links, chain, same, distinct⟩ := ih run
        refine ⟨(r.text, upper) :: links, .link next leads chain, by simp [same], ?_⟩
        intro nodup
        exact distinct (nodup_of_enter entered nodup)

theorem resolveValue_restores : Restores (resolveValue document limit more levels) := by
  induction levels with
  | zero =>
    intro v stack r after run
    cases run
  | succ levels ih =>
    intro v stack r after run
    unfold resolveValue at run
    split at run
    · split at run
      · cases run
      · rename_i merged inner inlined
        split at run
        · cases run
        · rename_i rs final resolved
          obtain ⟨links, _, rfl, _⟩ := inline_ok inlined
          cases each_restores (onField_restores ih) _ _ _ _ resolved
          cases run
          exact List.take_left
    · split at run
      · cases run
      · rename_i rs final resolved
        cases run
        exact each_restores ih _ _ _ _ resolved
    · cases run
      rfl

theorem resolveValue_array (vs : List Json) :
    (resolveValue document limit more (levels + 1) (.array vs) stack).1 =
      (vs.mapM fun v => (resolveValue document limit more levels v stack).1).map .array := by
  rw [← each_value resolveValue_restores]
  simp only [resolveValue]
  cases each (resolveValue document limit more levels) vs stack with
  | mk result after => cases result <;> rfl

theorem resolveValue_object {fields merged : Fields} {inner : Stack}
    (inlined : inline document more fields stack = (.ok merged, inner)) :
    (resolveValue document limit more (levels + 1) (.object fields) stack).1 =
      ((kept merged).mapM fun field =>
        (resolveValue document limit more levels field.2 inner).1.map fun v => (field.1, v)).map
          .object := by
  simp only [← onField_value]
  rw [← each_value (onField_restores resolveValue_restores)]
  simp only [resolveValue, inlined]
  cases each (onField (resolveValue document limit more levels)) (kept merged) inner with
  | mk result after => cases result <;> rfl

theorem resolveValue_scalar {v : Json} (plain : v.fields? = none ∧ v.items? = none) :
    resolveValue document limit more (levels + 1) v stack = (.ok v, stack) := by
  cases v with
  | array vs => cases plain.2
  | object fields => cases plain.1
  | _ => rfl

theorem resolveValue_array_ok {vs : List Json} {r : Json}
    (run : (resolveValue document limit more (levels + 1) (.array vs) stack).1 = .ok r) :
    ∃ rs, r = .array rs ∧
      List.Forall₂ (fun v r => (resolveValue document limit more levels v stack).1 = .ok r) vs rs := by
  rw [resolveValue_array] at run
  obtain ⟨rs, items, rfl⟩ := ok_of_map run
  exact ⟨rs, rfl, mapM_ok_iff.mp items⟩

theorem resolveValue_array_error {vs : List Json} {e : SchemaError}
    (run : (resolveValue document limit more (levels + 1) (.array vs) stack).1 = .error e) :
    ∃ v ∈ vs, (resolveValue document limit more levels v stack).1 = .error e := by
  rw [resolveValue_array] at run
  exact exists_error_of_mapM (error_of_map run)

theorem resolveValue_object_ok {fields : Fields} {r : Json}
    (run : (resolveValue document limit more (levels + 1) (.object fields) stack).1 = .ok r) :
    ∃ links merged rs, Chain document fields links merged ∧
      (stack.Nodup → (stack ++ links.map (·.1)).Nodup) ∧ r = .object rs ∧
      List.Forall₂ (fun field result => result.1 = field.1 ∧
        (resolveValue document limit more levels field.2 (stack ++ links.map (·.1))).1 =
          .ok result.2) (kept merged) rs := by
  cases inlined : inline document more fields stack with
  | mk result inner =>
    cases result with
    | error e =>
      simp only [resolveValue, inlined, reduceCtorEq] at run
    | ok merged =>
      rw [resolveValue_object inlined] at run
      obtain ⟨rs, values, rfl⟩ := ok_of_map run
      obtain ⟨links, chain, rfl, distinct⟩ := inline_ok inlined
      refine ⟨links, merged, rs, chain, distinct, rfl, (mapM_ok_iff.mp values).imp ?_⟩
      intro field result value
      obtain ⟨v, resolved, rfl⟩ := ok_of_map value
      exact ⟨rfl, resolved⟩

theorem resolveValue_object_error {fields : Fields} {e : SchemaError}
    (run : (resolveValue document limit more (levels + 1) (.object fields) stack).1 = .error e) :
    (inline document more fields stack).1 = .error e ∨
      ∃ links merged field, Chain document fields links merged ∧
        (stack.Nodup → (stack ++ links.map (·.1)).Nodup) ∧ field ∈ kept merged ∧
        (resolveValue document limit more levels field.2 (stack ++ links.map (·.1))).1 =
          .error e := by
  cases inlined : inline document more fields stack with
  | mk result inner =>
    cases result with
    | error e' =>
      simp only [resolveValue, inlined, Except.error.injEq] at run
      exact Or.inl (run ▸ rfl)
    | ok merged =>
      rw [resolveValue_object inlined] at run
      obtain ⟨field, member, fails⟩ := exists_error_of_mapM (error_of_map run)
      obtain ⟨links, chain, rfl, distinct⟩ := inline_ok inlined
      exact Or.inr ⟨links, merged, field, chain, distinct, member, error_of_map fails⟩

end OperatorKit.Schema
