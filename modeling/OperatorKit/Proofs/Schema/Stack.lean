import Mathlib.Data.List.Nodup
import Mathlib.Logic.Relation
import OperatorKit.Proofs.Schema.Meaning

/-!
The stack while a run goes on. A call of the resolver makes further calls: on the items of an array,
and on the fields that an object has once its references are followed. Each of them takes the stack
that the one before has left. All that a call and the calls below it ever put on the stack comes
behind what was there at entry, is distinct and leads to an object, and it is gone when the call
succeeds.
-/

namespace OperatorKit.Schema

open Relation

/-- References that may stand on a stack: they are distinct, and each leads to an object. -/
structure Entered (document : Json) (stack : Stack) : Prop where
  distinct : stack.Nodup
  leads : ∀ p ∈ stack, ∃ upper, Leads document p upper

inductive Iterates (document : Json) : Fields × Stack → Fields × Stack → Prop where
  | link {fields upper : Fields} {stack : Stack} {x : Json} {r : Reference} :
      fields.lookup Keyword.reference = some x → enter document stack x = .ok (r, upper) →
        Iterates document (fields, stack) (splice fields upper, stack ++ [r.text])

/-- The stack that a step over a list finds when it comes to an element: the one that the element
before has left. -/
inductive Finds {α β : Type} (step : α → Stack → Step β) : List α → Stack → α → Stack → Prop where
  | first {a : α} {rest : List α} {stack : Stack} : Finds step (a :: rest) stack a stack
  | later {a x : α} {b : β} {rest : List α} {stack left found : Stack} :
      step a stack = (.ok b, left) → Finds step rest left x found →
        Finds step (a :: rest) stack x found

/-- A call of the resolver on a value, with the levels that may be entered and the stack at entry. -/
structure Call where
  levels : Nat
  value : Json
  stack : Stack

def Call.run (document : Json) (limit more : Nat) (call : Call) : Step Json :=
  resolveValue document limit more call.levels call.value call.stack

/-- A call comes to another, on an item or on a field behind the chain of the object. -/
inductive Calls (document : Json) (limit more : Nat) : Call → Call → Prop where
  | item {levels : Nat} {vs : List Json} {v : Json} {stack found : Stack} :
      Finds (resolveValue document limit more levels) vs stack v found →
        Calls document limit more ⟨levels + 1, .array vs, stack⟩ ⟨levels, v, found⟩
  | field {levels : Nat} {fields merged : Fields} {field : String × Json}
      {stack inner found : Stack} :
      inline document more fields stack = (.ok merged, inner) →
      Finds (onField (resolveValue document limit more levels)) (kept merged) inner field found →
        Calls document limit more ⟨levels + 1, .object fields, stack⟩ ⟨levels, field.2, found⟩

structure Grows (document : Json) (entry stack : Stack) : Prop where
  entered : Entered document stack
  begins : entry <+: stack

structure Balanced {α : Type} (document : Json) (entry : Stack) (outcome : Step α) : Prop where
  grows : Grows document entry outcome.2
  restored (a : α) : outcome.1 = .ok a → outcome.2 = entry

variable {document : Json} {limit more levels : Nat} {stack : Stack} {fields : Fields}

theorem Entered.grows (entered : Entered document stack) : Grows document stack stack :=
  ⟨entered, List.prefix_refl stack⟩

theorem Grows.trans {entry middle : Stack} (first : Grows document entry middle)
    (second : Grows document middle stack) : Grows document entry stack :=
  ⟨second.entered, first.begins.trans second.begins⟩

theorem Entered.balanced {α : Type} (entered : Entered document stack)
    (result : Except SchemaError α) : Balanced document stack (result, stack) :=
  ⟨entered.grows, fun _ _ => rfl⟩

theorem Grows.failed {α : Type} {entry : Stack} (grown : Grows document entry stack)
    (e : SchemaError) : Balanced document entry ((.error e, stack) : Step α) :=
  ⟨grown, fun _ done => nomatch done⟩

theorem Iterates.grows {before after : Fields × Stack} (iterates : Iterates document before after)
    (entered : Entered document before.2) : Grows document before.2 after.2 := by
  cases iterates with
  | link _ entering =>
    obtain ⟨rfl, _, leads⟩ := enter_ok entering
    refine ⟨⟨nodup_of_enter entering entered.distinct, fun p member => ?_⟩,
      List.prefix_append _ _⟩
    rcases List.mem_append.mp member with old | new
    · exact entered.leads p old
    · exact List.mem_singleton.mp new ▸ ⟨_, leads⟩

theorem grows_of_iterates {before after : Fields × Stack}
    (loop : ReflTransGen (Iterates document) before after) (entered : Entered document before.2) :
    Grows document before.2 after.2 := by
  induction loop with
  | refl => exact entered.grows
  | tail _ iterates grown => exact grown.trans (iterates.grows grown.entered)

theorem inline_iterates (document : Json) (more : Nat) (fields : Fields) (stack : Stack) :
    ∃ last, ReflTransGen (Iterates document) (fields, stack)
      (last, (inline document more fields stack).2) := by
  induction more generalizing fields stack with
  | zero =>
    refine ⟨fields, ?_⟩
    unfold inline
    split
    · exact .refl
    · split <;> exact .refl
  | succ more ih =>
    unfold inline
    split
    · exact ⟨fields, .refl⟩
    · rename_i x next
      split
      · exact ⟨fields, .refl⟩
      · rename_i r upper entering
        obtain ⟨last, loop⟩ := ih (splice fields upper) (stack ++ [r.text])
        exact ⟨last, .head (.link next entering) loop⟩

theorem inline_grows (entered : Entered document stack) :
    Grows document stack (inline document more fields stack).2 := by
  obtain ⟨_, loop⟩ := inline_iterates document more fields stack
  exact grows_of_iterates loop entered

section Lists

variable {α β : Type} {step : α → Stack → Step β} {as : List α} {a : α} {found after : Stack}

/-- Steps that restore the stack all find the one at the start. -/
theorem Finds.eq_start (finds : Finds step as stack a found) (restores : Restores step) :
    found = stack := by
  induction finds with
  | first => rfl
  | later done _ ih => exact ih.trans (restores _ _ _ _ done)

theorem exists_finds_of_each {e : SchemaError} (failed : each step as stack = (.error e, after)) :
    ∃ a found, Finds step as stack a found ∧ step a found = (.error e, after) := by
  induction as generalizing stack with
  | nil => cases failed
  | cons a rest ih =>
    simp only [each] at failed
    split at failed
    · rename_i e' left run
      cases failed
      exact ⟨a, stack, .first, run⟩
    · rename_i b left run
      split at failed
      · rename_i e' final later
        cases failed
        obtain ⟨x, found, finds, fails⟩ := ih later
        exact ⟨x, found, .later run finds, fails⟩
      · cases failed

theorem each_balanced (restores : Restores step) (entered : Entered document stack)
    (balanced : ∀ a, Balanced document stack (step a stack)) :
    Balanced document stack (each step as stack) := by
  cases run : each step as stack with
  | mk result after =>
    cases result with
    | error e =>
      obtain ⟨a, found, finds, fails⟩ := exists_finds_of_each run
      cases finds.eq_start restores
      have grown := (balanced a).grows
      rw [fails] at grown
      exact grown.failed e
    | ok bs =>
      cases each_restores restores _ _ _ _ run
      exact entered.balanced (.ok bs)

end Lists

theorem onField_balanced {step : Json → Stack → Step Json} {field : String × Json}
    (balanced : Balanced document stack (step field.2 stack)) :
    Balanced document stack (onField step field stack) := by
  simp only [onField]
  cases run : step field.2 stack with
  | mk result after =>
    rw [run] at balanced
    cases result with
    | error e => exact balanced.grows.failed e
    | ok v => exact ⟨balanced.grows, fun _ _ => balanced.restored v rfl⟩

theorem resolveValue_balanced (entered : Entered document stack) (v : Json) :
    Balanced document stack (resolveValue document limit more levels v stack) := by
  induction levels generalizing v stack with
  | zero => exact entered.balanced _
  | succ levels ih =>
    cases v with
    | array vs =>
      have items : Balanced document stack (each (resolveValue document limit more levels) vs stack) :=
        each_balanced resolveValue_restores entered fun v => ih entered v
      simp only [resolveValue]
      cases run : each (resolveValue document limit more levels) vs stack with
      | mk result after =>
        rw [run] at items
        cases result with
        | error e => exact items.grows.failed e
        | ok rs => exact ⟨items.grows, fun _ _ => items.restored rs rfl⟩
    | object fields =>
      have grown : Grows document stack (inline document more fields stack).2 :=
        inline_grows entered
      simp only [resolveValue]
      cases chain : inline document more fields stack with
      | mk result inner =>
        rw [chain] at grown
        cases result with
        | error e => exact grown.failed e
        | ok merged =>
          -- The fields are balanced over the stack behind the chain, which is cut off at the end.
          have values : Balanced document inner
              (each (onField (resolveValue document limit more levels)) (kept merged) inner) :=
            each_balanced (onField_restores resolveValue_restores) grown.entered
              fun field => onField_balanced (ih grown.entered field.2)
          dsimp only
          cases run : each (onField (resolveValue document limit more levels)) (kept merged) inner with
          | mk result after =>
            rw [run] at values
            cases result with
            | error e => exact (grown.trans values.grows).failed e
            | ok rs =>
              have whole : after.take stack.length = stack :=
                (List.prefix_iff_eq_take.mp (grown.trans values.grows).begins).symm
              dsimp only
              rw [whole]
              exact entered.balanced _
    | _ => exact entered.balanced _

/-- Items are resolved under the stack at entry, and fields under the one behind the chain. -/
theorem Calls.stack_eq {call inner : Call} (calls : Calls document limit more call inner) :
    (∃ vs, call.value = .array vs ∧ inner.stack = call.stack) ∨
      ∃ fields merged, call.value = .object fields ∧
        inline document more fields call.stack = (.ok merged, inner.stack) := by
  cases calls with
  | item finds => exact Or.inl ⟨_, rfl, finds.eq_start resolveValue_restores⟩
  | field chain finds =>
    cases finds.eq_start (onField_restores resolveValue_restores)
    exact Or.inr ⟨_, _, rfl, chain⟩

theorem Calls.grows {call inner : Call} (calls : Calls document limit more call inner)
    (entered : Entered document call.stack) : Grows document call.stack inner.stack := by
  rcases calls.stack_eq with ⟨_, _, same⟩ | ⟨fields, merged, _, chain⟩
  · exact same ▸ entered.grows
  · have grown : Grows document call.stack (inline document more fields call.stack).2 :=
      inline_grows entered
    rwa [chain] at grown

theorem grows_of_calls {call inner : Call}
    (calls : ReflTransGen (Calls document limit more) call inner)
    (entered : Entered document call.stack) : Grows document call.stack inner.stack := by
  induction calls with
  | refl => exact entered.grows
  | tail _ next grown => exact grown.trans (next.grows grown.entered)

/-- Whatever a call comes to, the stack only grows behind what it was at entry, by distinct references
that lead to objects, and it is as it was when the call succeeds. So do the iterations that follow a
chain. Since each item and each field finds the same stack, nothing that one of them has put there is
seen by another. -/
theorem call_balanced (document : Json) (limit more : Nat) (call : Call)
    (entered : Entered document call.stack) :
    (∀ inner, ReflTransGen (Calls document limit more) call inner →
      Grows document call.stack inner.stack ∧
      Balanced document inner.stack (inner.run document limit more)) ∧
    (∀ fields, (∃ last, ReflTransGen (Iterates document) (fields, call.stack)
        (last, (inline document more fields call.stack).2)) ∧
      ∀ state, ReflTransGen (Iterates document) (fields, call.stack) state →
        Grows document call.stack state.2) ∧
    ∀ inner, Calls document limit more call inner →
      (∃ vs, call.value = .array vs ∧ inner.stack = call.stack) ∨
        ∃ fields merged, call.value = .object fields ∧
          inline document more fields call.stack = (.ok merged, inner.stack) := by
  refine ⟨fun inner calls => ?_, fun fields => ⟨?_, fun state loop => ?_⟩, fun inner calls => ?_⟩
  · have grown := grows_of_calls calls entered
    exact ⟨grown, resolveValue_balanced grown.entered inner.value⟩
  · exact inline_iterates document more fields call.stack
  · exact grows_of_iterates loop entered
  · exact calls.stack_eq

def twinNode : Json :=
  .array [.object [(Keyword.reference, .string "#/c")], .object [(Keyword.reference, .string "#/c")]]

def twinCall : Call :=
  ⟨3, twinNode, ["#/b"]⟩

theorem entered_singleton {p : String} {upper : Fields} (leads : Leads document p upper) :
    Entered document [p] :=
  ⟨List.nodup_singleton p, List.forall_mem_singleton.mpr ⟨upper, leads⟩⟩

/-- The second item finds the stack as it was before the first. Where a reference closes a cycle with
the stack at entry, those on the way to it are left on the stack. -/
theorem twinCall_balanced :
    Entered aliasDocument ["#/b"] ∧
      twinCall.run aliasDocument 9 9 =
        (.ok (.array [.object [("minLength", .ofInt 1)], .object [("minLength", .ofInt 1)]]),
          ["#/b"]) ∧
      Balanced aliasDocument ["#/b"] (twinCall.run aliasDocument 9 9) ∧
      (∀ inner, Calls aliasDocument 9 9 twinCall inner → inner.stack = ["#/b"]) ∧
      Entered aliasDocument ["#/c"] ∧
      (Call.mk 9 aliasNode ["#/c"]).run aliasDocument 9 9 =
        (.error (.circular ["#/c", "#/a", "#/b", "#/c"]), ["#/c", "#/a", "#/b"]) ∧
      Grows aliasDocument ["#/c"] ["#/c", "#/a", "#/b"] := by
  have entered : Entered aliasDocument ["#/b"] :=
    entered_singleton ⟨⟨"#/b", [], "b"⟩, rfl, rfl⟩
  have entered' : Entered aliasDocument ["#/c"] :=
    entered_singleton ⟨⟨"#/c", [], "c"⟩, rfl, rfl⟩
  have failed : (Call.mk 9 aliasNode ["#/c"]).run aliasDocument 9 9 =
      (.error (.circular ["#/c", "#/a", "#/b", "#/c"]), ["#/c", "#/a", "#/b"]) := rfl
  obtain ⟨within, _, siblings⟩ := call_balanced aliasDocument 9 9 twinCall entered
  obtain ⟨within', _⟩ := call_balanced aliasDocument 9 9 ⟨9, aliasNode, ["#/c"]⟩ entered'
  have left := (within' _ .refl).2.grows
  rw [failed] at left
  refine ⟨entered, rfl, (within _ .refl).2, fun inner calls => ?_, entered', failed, left⟩
  rcases siblings inner calls with ⟨_, _, same⟩ | ⟨_, _, isObject, _⟩
  · exact same
  · cases isObject

end OperatorKit.Schema
