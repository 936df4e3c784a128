import OperatorKit.Proofs.Schema.Failure

/-!
The chain of an object without a bound on its length: its references are entered one after the other
until none is left or one cannot be entered. A run that has room for every reference follows its
chains in just this way, so runs with different bounds can be compared step by step.
-/

namespace OperatorKit.Schema

inductive Follows (document : Json) : Fields → Stack → Step Fields → Prop where
  | done {fields : Fields} {stack : Stack} :
      fields.lookup Keyword.reference = none → Follows document fields stack (.ok fields, stack)
  | broken {fields : Fields} {stack : Stack} {x : Json} {e : SchemaError} :
      fields.lookup Keyword.reference = some x → enter document stack x = .error e →
        Follows document fields stack (.error e, stack)
  | link {fields upper : Fields} {stack : Stack} {x : Json} {r : Reference} {outcome : Step Fields} :
      fields.lookup Keyword.reference = some x → enter document stack x = .ok (r, upper) →
      Follows document (splice fields upper) (stack ++ [r.text]) outcome →
        Follows document fields stack outcome

variable {document : Json} {more : Nat} {stack : Stack} {fields : Fields}

theorem Follows.unique {outcome other : Step Fields} (follows : Follows document fields stack outcome)
    (also : Follows document fields stack other) : outcome = other := by
  induction follows with
  | done free =>
    cases also with
    | done _ => rfl
    | broken next _ => cases free.symm.trans next
    | link next _ _ => cases free.symm.trans next
  | broken next failed =>
    cases also with
    | done free => cases free.symm.trans next
    | broken next' failed' =>
      cases next.symm.trans next'
      cases failed.symm.trans failed'
      rfl
    | link next' entered _ =>
      cases next.symm.trans next'
      cases failed.symm.trans entered
  | link next entered _ ih =>
    cases also with
    | done free => cases free.symm.trans next
    | broken next' failed =>
      cases next.symm.trans next'
      cases failed.symm.trans entered
    | link next' entered' rest =>
      cases next.symm.trans next'
      cases entered.symm.trans entered'
      exact ih rest

/-- The bound shrinks where the stack grows, and the pool is never exceeded by the stack. -/
theorem inline_follows {pool : List String} (distinct : stack.Nodup) (known : stack ⊆ pool)
    (written : references (.object fields) ++ references document ⊆ pool)
    (room : pool.length ≤ more + stack.length) :
    Follows document fields stack (inline document more fields stack) := by
  induction more generalizing fields stack with
  | zero =>
    unfold inline
    split
    · rename_i free
      exact .done free
    · rename_i x next
      split
      · rename_i e failed
        exact .broken next failed
      · rename_i r upper entered
        obtain ⟨rfl, _, _⟩ := enter_ok entered
        have own : r.text ∈ pool :=
          written (mem_references_append (Or.inl (.own (Entries.mem_of_lookup next))))
        have inside : stack ++ [r.text] ⊆ pool :=
          List.append_subset.mpr ⟨known, List.cons_subset.mpr ⟨own, List.nil_subset _⟩⟩
        have bound := (List.subperm_of_subset (nodup_of_enter entered distinct) inside).length_le
        simp only [List.length_append, List.length_singleton] at bound
        omega
  | succ more ih =>
    unfold inline
    split
    · rename_i free
      exact .done free
    · rename_i x next
      split
      · rename_i e failed
        exact .broken next failed
      · rename_i r upper entered
        obtain ⟨rfl, _, leads⟩ := enter_ok entered
        have step := (Unfolds.reaches (.follow next leads)).references_subset
        have own : [r.text] ⊆ pool :=
          List.Subset.trans (List.append_subset.mp step).1 written
        have later : references (.object (splice fields upper)) ⊆ pool :=
          List.Subset.trans (List.append_subset.mp step).2 written
        refine .link next entered (ih (nodup_of_enter entered distinct) ?_ ?_ ?_)
        · exact List.append_subset.mpr ⟨known, own⟩
        · exact List.append_subset.mpr ⟨later, (List.append_subset.mp written).2⟩
        · simp only [List.length_append, List.length_singleton]
          omega

theorem Fits.follows {pool : List String} (fits : Fits document more stack (.object fields) pool) :
    Follows document fields stack (inline document more fields stack) :=
  inline_follows fits.distinct fits.known fits.written (Nat.le_add_right_of_le fits.enough)

end OperatorKit.Schema
