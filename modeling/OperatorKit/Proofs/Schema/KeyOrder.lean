import OperatorKit.Proofs.Json.Reordered
import OperatorKit.Proofs.Schema.Follow
import OperatorKit.Proofs.Schema.Meaning

/-!
The order of keys and resolution. Reorderings of a document and of a schema are resolved to
reorderings of one result, or are both refused, with every limit. The reasons may differ: of several
fields that cannot be resolved the first one is named.
-/

namespace OperatorKit.Schema

open Json (Twins Reordered OnKey)

section Together

variable {α β γ δ ε : Type} {R : α → β → Prop}

inductive Together (R : α → β → Prop) : Except ε α → Except ε β → Prop where
  | failed (e e' : ε) : Together R (.error e) (.error e')
  | done {a : α} {b : β} : R a b → Together R (.ok a) (.ok b)

theorem Together.map {S : γ → δ → Prop} {f : α → γ} {g : β → δ} {first : Except ε α}
    {second : Except ε β} (together : Together R first second)
    (related : ∀ a b, R a b → S (f a) (g b)) : Together S (first.map f) (second.map g) := by
  cases together with
  | failed e e' => exact .failed e e'
  | done both => exact .done (related _ _ both)

theorem Together.trans {S : β → γ → Prop} {T : α → γ → Prop} {first : Except ε α}
    {second : Except ε β} {third : Except ε γ} (one : Together R first second)
    (two : Together S second third) (related : ∀ a b c, R a b → S b c → T a c) :
    Together T first third := by
  cases one with
  | failed e _ =>
    cases two with
    | failed _ e' => exact .failed e e'
  | done here =>
    cases two with
    | done there => exact .done (related _ _ _ here there)

theorem Together.mapM {S : γ → δ → Prop} {f : α → Except ε γ} {g : β → Except ε δ} {as : List α}
    {bs : List β} (each : List.Forall₂ (fun a b => Together S (f a) (g b)) as bs) :
    Together (List.Forall₂ S) (as.mapM f) (bs.mapM g) := by
  induction each with
  | nil => exact .done .nil
  | @cons a b as bs first _ ih =>
    rw [List.mapM_cons, List.mapM_cons]
    generalize f a = one at first
    generalize g b = two at first
    cases first with
    | failed e e' => exact .failed e e'
    | done here => exact ih.map fun _ _ later => .cons here later

theorem Together.mapM_perm {f : α → Except ε β} {as bs : List α} (perm : as.Perm bs) :
    Together List.Perm (as.mapM f) (bs.mapM f) := by
  induction perm with
  | nil => exact .done .nil
  | cons a _ ih =>
    rw [List.mapM_cons, List.mapM_cons]
    cases f a with
    | error e => exact .failed e e
    | ok b => exact ih.map fun _ _ later => later.cons b
  | swap a b rest =>
    simp only [List.mapM_cons]
    cases f a with
    | error e =>
      cases f b with
      | error e' => exact .failed e' e
      | ok _ => exact .failed e e
    | ok c =>
      cases f b with
      | error e' => exact .failed e' e'
      | ok d =>
        cases rest.mapM f with
        | error e => exact .failed e e
        | ok others => exact .done (.swap c d others)
  | trans _ _ one two => exact one.trans two fun _ _ _ => List.Perm.trans

end Together

variable {first second : Json} {fields others : Fields} {stack : Stack}

theorem twins_splice {upper upper' : Fields} (beside : Twins (.object fields) (.object others))
    (above : Twins (.object upper) (.object upper')) :
    Twins (.object (splice fields upper)) (.object (splice others upper')) :=
  (beside.filter fun key => key ≠ Keyword.reference).overlay above

theorem target_twins (documents : Twins first second) (r : Reference) :
    Together (fun upper lower => Twins (.object upper) (.object lower)) (target first r)
      (target second r) := by
  have leads := documents.walk (r.directory ++ [r.key])
  unfold target
  rw [Json.lookup_eq, Json.lookup_eq]
  generalize first.walk? (r.directory ++ [r.key]) = found at leads
  generalize second.walk? (r.directory ++ [r.key]) = found' at leads
  cases leads with
  | none => exact .failed _ _
  | @some v w both =>
    cases v with
    | object upper =>
      obtain ⟨_, lower, rfl, _⟩ := both.shuffled
      exact .done both
    | array vs =>
      obtain ⟨ws, rfl, _⟩ := both.array
      exact .failed _ _
    | _ =>
      cases both.scalar ⟨rfl, rfl⟩
      exact .failed _ _

theorem enter_twins (documents : Twins first second) (stack : Stack) {x y : Json}
    (twins : Twins x y) :
    Together (fun a b => a.1 = b.1 ∧ Twins (.object a.2) (.object b.2)) (enter first stack x)
      (enter second stack y) := by
  cases x with
  | object fields =>
    obtain ⟨_, _, rfl, _⟩ := twins.shuffled
    exact .failed _ _
  | array vs =>
    obtain ⟨_, rfl, _⟩ := twins.array
    exact .failed _ _
  | _ =>
    cases twins.scalar ⟨rfl, rfl⟩
    unfold enter
    split
    · exact .failed _ _
    · rename_i r _
      split
      · exact .failed _ _
      · exact (target_twins documents r).map fun upper lower both => ⟨rfl, both⟩

/-- A chain goes on in one document as in the other, and ends there under the same stack. -/
theorem Follows.twins {outcome : Step Fields} (documents : Twins first second)
    (follows : Follows first fields stack outcome) (twins : Twins (.object fields) (.object others)) :
    ∃ other, Follows second others stack other ∧ outcome.2 = other.2 ∧
      Together (fun a b => Twins (.object a) (.object b)) outcome.1 other.1 := by
  induction follows generalizing others with
  | done free => exact ⟨_, .done (twins.lookup_none free), rfl, .done twins⟩
  | @broken fields stack x e next failed =>
    obtain ⟨y, there, both⟩ := twins.lookup_some next
    have entered := enter_twins documents stack both
    rw [failed] at entered
    generalize again : enter second stack y = result at entered
    cases entered with
    | failed _ e' => exact ⟨_, .broken there again, rfl, .failed e e'⟩
  | @link fields upper stack x r outcome next found rest ih =>
    obtain ⟨y, there, both⟩ := twins.lookup_some next
    have entered := enter_twins documents stack both
    rw [found] at entered
    generalize again : enter second stack y = result at entered
    cases entered with
    | @done _ b related =>
      obtain ⟨r', lower⟩ := b
      obtain ⟨rfl, targets⟩ := related
      obtain ⟨other, follows, sameStack, ends⟩ := ih (twins_splice twins targets)
      exact ⟨other, .link there again follows, sameStack, ends⟩

variable {v w : Json} {limit levels more more' : Nat} {pool pool' : List String}

theorem inline_twins (documents : Twins first second)
    (twins : Twins (.object fields) (.object others))
    (fits : Fits first more stack (.object fields) pool)
    (fits' : Fits second more' stack (.object others) pool') :
    (inline first more fields stack).2 = (inline second more' others stack).2 ∧
      Together (fun a b => Twins (.object a) (.object b)) (inline first more fields stack).1
        (inline second more' others stack).1 := by
  obtain ⟨other, follows, sameStack, ends⟩ := fits.follows.twins documents twins
  -- A chain ends in one way only, so the second run comes to the end that the first one leads to.
  cases follows.unique fits'.follows
  exact ⟨sameStack, ends⟩

theorem object_twins {f g : Json → Except SchemaError Json}
    (twins : Twins (.object fields) (.object others))
    (each : ∀ a ∈ fields, ∀ b ∈ others, Twins a.2 b.2 → Together Reordered (f a.2) (g b.2)) :
    Together Reordered ((fields.mapM fun field => (f field.2).map fun v => (field.1, v)).map .object)
      ((others.mapM fun field => (g field.2).map fun v => (field.1, v)).map .object) := by
  obtain ⟨shuffled, _, same, perm, pairs⟩ := twins.shuffled
  cases same
  have side_by_side : List.Forall₂ (fun a b => Together (OnKey Reordered)
      ((f a.2).map fun v => (a.1, v)) ((g b.2).map fun v => (b.1, v))) fields shuffled := by
    refine forall₂_imp_of_mem pairs fun a member b also pair => ?_
    have values := each a member b (perm.subset also)
    obtain ⟨both⟩ := pair
    exact (values both).map fun _ _ => .mk
  have shuffle := Together.mapM_perm (f := fun field => (g field.2).map fun v => (field.1, v)) perm
  have run := (Together.mapM side_by_side).trans shuffle
    (T := fun rs ss => Reordered (.object rs) (.object ss)) fun _ _ _ => .object
  exact run.map fun _ _ => id

theorem resolveValue_twins (documents : Twins first second) (twins : Twins v w)
    (fits : Fits first more stack v pool) (fits' : Fits second more' stack w pool') :
    Together Reordered (resolveValue first limit more levels v stack).1
      (resolveValue second limit more' levels w stack).1 := by
  induction levels generalizing v w stack with
  | zero => exact .failed _ _
  | succ levels ih =>
    cases v with
    | array vs =>
      obtain ⟨ws, rfl, items⟩ := twins.array
      rw [resolveValue_array, resolveValue_array]
      refine (Together.mapM (forall₂_imp_of_mem items ?_)).map fun _ _ => .array
      intro v member w also both
      exact ih both (fits.item member) (fits'.item also)
    | object fields =>
      obtain ⟨_, others, rfl, _⟩ := twins.shuffled
      obtain ⟨sameStack, ends⟩ := inline_twins documents twins fits fits'
      cases done : inline first more fields stack with
      | mk result inner =>
        cases done' : inline second more' others stack with
        | mk result' inner' =>
          rw [done, done'] at sameStack ends
          cases sameStack
          cases ends with
          | failed e e' =>
            simp only [resolveValue, done, done']
            exact .failed e e'
          | @done merged merged' both =>
            rw [resolveValue_object done, resolveValue_object done']
            exact object_twins
              (f := fun v => (resolveValue first limit more levels v inner).1)
              (g := fun v => (resolveValue second limit more' levels v inner).1)
              (both.filter fun key => !Keyword.isStripped key)
              fun a member b also twins =>
                ih twins (fits.field done member) (fits'.field done' also)
    | _ =>
      cases twins.scalar ⟨rfl, rfl⟩
      rw [resolveValue_scalar ⟨rfl, rfl⟩, resolveValue_scalar ⟨rfl, rfl⟩]
      exact .done twins.reordered

/-- The order of keys never decides whether a schema is resolved, and reaches the result as an order
of keys only. -/
theorem resolve_reordered (first second v w : Json) (limit : Nat) (distinct : first.Distinct)
    (distinct' : v.Distinct) (documents : Reordered first second) (nodes : Reordered v w) :
    ((∃ r, resolve first limit v = .ok r) ↔ ∃ s, resolve second limit w = .ok s) ∧
      ∀ r s, resolve first limit v = .ok r → resolve second limit w = .ok s → Reordered r s := by
  have run : Together Reordered (resolve first limit v) (resolve second limit w) :=
    resolveValue_twins ⟨documents, distinct⟩ ⟨nodes, distinct'⟩ (.start first v) (.start second w)
  generalize resolve first limit v = one at run
  generalize resolve second limit w = two at run
  cases run with
  | failed e e' => simp
  | done both => simp [both]

/-- The order still decides which of two failures is told. -/
example :
    resolve .null 2 (.object [
      ("a", .object [(Keyword.reference, .string "#/x")]),
      ("b", .object [(Keyword.reference, .string "#/y")])]) = .error (.unresolved "#/x") ∧
    resolve .null 2 (.object [
      ("b", .object [(Keyword.reference, .string "#/y")]),
      ("a", .object [(Keyword.reference, .string "#/x")])]) = .error (.unresolved "#/y") :=
  ⟨rfl, rfl⟩

def shuffledDocument : Json :=
  .object [
    ("c", .object [("minLength", .ofInt 1)]),
    ("a", .object [("x-order", .null), (Keyword.reference, .string "#/b"),
      ("format", .string "email")]),
    ("b", .object [("type", .string "string"), ("title", .string "B"),
      ("anyOf", .array [.object [(Keyword.reference, .string "#/c")]])])]

def shuffledNode : Json :=
  .object [("nullable", .bool true), ("type", .string "integer"),
    (Keyword.reference, .string "#/a")]

def shuffledMeaning : Json :=
  .object [("nullable", .bool true), ("type", .string "string"), ("format", .string "email"),
    ("anyOf", .array [.object [("minLength", .ofInt 1)]])]

theorem shuffledDocument_reordered : Reordered aliasDocument shuffledDocument := by
  have inner := Json.reordered_of_perm (@List.perm_append_comm _
    [(Keyword.reference, Json.string "#/b"), ("format", .string "email")] [("x-order", .null)])
  refine .object (.cons (.mk inner) (.cons (.mk (.refl _)) (.cons (.mk (.refl _)) .nil))) ?_
  exact @List.perm_append_comm _ [_, _] [_]

theorem resolve_shuffled :
    aliasDocument.Distinct ∧ aliasNode.Distinct ∧ Reordered aliasDocument shuffledDocument ∧
      Reordered aliasNode shuffledNode ∧ resolve aliasDocument 3 aliasNode = .ok aliasMeaning ∧
      resolve shuffledDocument 3 shuffledNode = .ok shuffledMeaning ∧
      Reordered aliasMeaning shuffledMeaning := by
  have distinct : aliasDocument.Distinct := by
    simp [aliasDocument, Json.Distinct, Json.throughout_object_iff, Json.throughout_array_iff,
      Json.throughout_scalar, Json.ofInt, Keyword.reference, Json.fields?, Json.items?]
  have distinct' : aliasNode.Distinct := by
    simp [aliasNode, Json.Distinct, Json.throughout_object_iff, Json.throughout_scalar,
      Keyword.reference, Json.fields?, Json.items?]
  have nodes : Reordered aliasNode shuffledNode :=
    Json.reordered_of_perm (@List.perm_append_comm _ [_, _] [_])
  have first : resolve aliasDocument 3 aliasNode = .ok aliasMeaning := rfl
  have second : resolve shuffledDocument 3 shuffledNode = .ok shuffledMeaning := rfl
  have same := (resolve_reordered aliasDocument shuffledDocument aliasNode shuffledNode 3 distinct
    distinct' shuffledDocument_reordered nodes).2
  exact ⟨distinct, distinct', shuffledDocument_reordered, nodes, first, second,
    same aliasMeaning shuffledMeaning first second⟩

end OperatorKit.Schema
