import OperatorKit.Proofs.Schema.Run

/-!
The plain meaning of a schema: what it says when each reference stands for what it leads to, without
a limit on depth and without a stack. Whatever the resolver gives is the one meaning of the schema.
A meaning is a finite tree, so a schema that unfolds without end has none.
-/

namespace OperatorKit.Schema

/-- Objects laid over some fields in turn, none of them with its own reference. -/
def layered (fields : Fields) (uppers : List Fields) : Fields :=
  uppers.foldl (fun lower upper => Entries.overlay lower (Entries.erase upper Keyword.reference))
    (Entries.erase fields Keyword.reference)

/-- A scalar means itself and an array the meanings of its items. An object means the meanings of
the fields that survive, in their order, once the targets of its references are laid over its own
fields. -/
inductive Means (document : Json) : Json → Json → Prop where
  | scalar {v : Json} : v.fields? = none ∧ v.items? = none → Means document v v
  | array {vs rs : List Json} :
      List.Forall₂ (Means document) vs rs → Means document (.array vs) (.array rs)
  | object {fields merged results : Fields} {links : List (String × Fields)} :
      Chain document fields links merged →
      results.map (·.1) = (kept (layered fields (links.map (·.2)))).map (·.1) →
      List.Forall₂ (Means document) ((kept (layered fields (links.map (·.2)))).map (·.2))
        (results.map (·.2)) →
        Means document (.object fields) (.object results)

def Endless (document node : Json) : Prop :=
  ∃ walk : Nat → Json, walk 0 = node ∧ ∀ i, ∃ label, Unfolds document (walk i) label (walk (i + 1))

variable {document : Json}

/-- Splicing the targets in one by one, each with its own reference until the next is spliced in,
comes to laying them over the fields without any. -/
theorem Chain.merged_eq {fields merged : Fields} {links : List (String × Fields)}
    (chain : Chain document fields links merged) : merged = layered fields (links.map (·.2)) := by
  induction chain with
  | done free => exact (Entries.erase_of_lookup_none free).symm
  | @link fields upper merged p links _ _ _ ih =>
    have erased : Entries.erase (splice fields upper) Keyword.reference =
        Entries.overlay (Entries.erase fields Keyword.reference)
          (Entries.erase upper Keyword.reference) := by
      rw [splice, Entries.erase_overlay, Entries.erase_erase]
    rw [ih, layered, erased]
    rfl

/-- Induction on a meaning, with a hypothesis for each item and each field. -/
@[elab_as_elim]
theorem Means.induct {motive : Json → Json → Prop}
    (scalar : ∀ v : Json, v.fields? = none ∧ v.items? = none → motive v v)
    (array : ∀ vs rs : List Json, List.Forall₂ motive vs rs → motive (.array vs) (.array rs))
    (object : ∀ (fields merged results : Fields) (links : List (String × Fields)),
      Chain document fields links merged → results.map (·.1) = (kept merged).map (·.1) →
      List.Forall₂ motive ((kept merged).map (·.2)) (results.map (·.2)) →
        motive (.object fields) (.object results))
    {v r : Json} (means : Means document v r) : motive v r :=
  @Means.rec document (fun v r _ => motive v r) (fun vs rs _ => List.Forall₂ motive vs rs)
    (fun {v} plain => scalar v plain)
    (fun {vs rs} _ items => array vs rs items)
    (fun {fields merged results links} chain keys _ values =>
      object fields merged results links chain (chain.merged_eq ▸ keys) (chain.merged_eq ▸ values))
    .nil (fun _ _ first later => .cons first later) v r means

theorem Means.unique {v r : Json} (means : Means document v r) :
    ∀ other, Means document v other → other = r := by
  refine Means.induct ?scalar ?array ?object means
  case scalar =>
    intro v plain other also
    cases also with
    | scalar _ => rfl
    | array _ => cases plain.2
    | object _ _ _ => cases plain.1
  case array =>
    intro vs rs items other also
    cases also with
    | scalar plain => cases plain.2
    | array items' => rw [forall₂_unique items items']
  case object =>
    intro fields merged results links chain keys values other also
    cases also with
    | scalar plain => cases plain.1
    | object chain' keys' values' =>
      obtain ⟨rfl, rfl⟩ := chain.unique chain'
      rw [← chain.merged_eq] at keys' values'
      have same := forall₂_unique values values'
      rw [List.zip_of_prod (keys'.trans keys.symm) same, ← List.zip_of_prod rfl rfl]

theorem Chain.accessible {fields merged : Fields} {links : List (String × Fields)}
    (chain : Chain document fields links merged)
    (below : ∀ field ∈ kept merged, Acc (fun w v => ∃ label, Unfolds document v label w) field.2) :
    Acc (fun w v => ∃ label, Unfolds document v label w) (.object fields) := by
  induction chain with
  | done free =>
    refine Acc.intro _ ?_
    rintro w ⟨label, unfolds⟩
    cases unfolds with
    | field _ member => exact below _ member
    | follow next _ => cases free.symm.trans next
  | link next leads _ ih =>
    refine Acc.intro _ ?_
    rintro w ⟨label, unfolds⟩
    cases unfolds with
    | field free _ => cases free.symm.trans next
    | follow next' leads' =>
      cases next.symm.trans next'
      cases leads.unique leads'
      exact ih below

/-- What has a meaning is unfolded completely in finitely many steps. -/
theorem Means.accessible {v r : Json} (means : Means document v r) :
    Acc (fun w v => ∃ label, Unfolds document v label w) v := by
  refine Means.induct ?scalar ?array ?object means
  case scalar =>
    intro v plain
    refine Acc.intro _ ?_
    rintro w ⟨label, unfolds⟩
    cases unfolds with
    | item _ => cases plain.2
    | _ => cases plain.1
  case array =>
    intro vs rs items
    refine Acc.intro _ ?_
    rintro w ⟨label, unfolds⟩
    cases unfolds with
    | item member => exact (exists_of_forall₂ items member).choose_spec
  case object =>
    intro fields merged results links chain _ values
    refine chain.accessible ?_
    intro field member
    exact (exists_of_forall₂ values (List.mem_map_of_mem member)).choose_spec

theorem Means.not_endless {v r : Json} (means : Means document v r) : ¬ Endless document v := by
  have finite := means.accessible
  clear means
  induction finite with
  | intro v _ ih =>
    rintro ⟨walk, start, steps⟩
    exact ih (walk 1) (start ▸ steps 0) ⟨fun i => walk (i + 1), rfl, fun i => steps (i + 1)⟩

theorem means_of_resolveValue {limit more levels : Nat} {stack : Stack} {v r : Json}
    (run : (resolveValue document limit more levels v stack).1 = .ok r) : Means document v r := by
  induction levels generalizing v stack r with
  | zero => cases run
  | succ levels ih =>
    cases v with
    | array vs =>
      obtain ⟨rs, rfl, items⟩ := resolveValue_array_ok run
      exact .array (items.imp fun _ _ resolved => ih resolved)
    | object fields =>
      obtain ⟨links, merged, results, chain, _, rfl, values⟩ := resolveValue_object_ok run
      refine .object chain ?_ ?_ <;> rw [← chain.merged_eq]
      · rw [← List.forall₂_eq_eq_eq, List.forall₂_map_left_iff, List.forall₂_map_right_iff]
        exact (values.imp fun _ _ value => value.1).flip
      · rw [List.forall₂_map_left_iff, List.forall₂_map_right_iff]
        exact values.imp fun _ _ value => ih value.2
    | _ =>
      rw [resolveValue_scalar ⟨rfl, rfl⟩] at run
      cases run
      exact .scalar ⟨rfl, rfl⟩

/-- Whatever the limit, a schema resolves to its meaning and to nothing else. -/
theorem resolve_gives_meaning (document node r : Json) (limit : Nat)
    (resolved : resolve document limit node = .ok r) :
    Means document node r ∧ ∀ other, Means document node other → other = r :=
  ⟨means_of_resolveValue resolved, (means_of_resolveValue resolved).unique⟩

def aliasDocument : Json :=
  .object [
    ("a", .object [(Keyword.reference, .string "#/b"), ("format", .string "email"),
      ("x-order", .null)]),
    ("b", .object [("type", .string "string"), ("title", .string "B"),
      ("anyOf", .array [.object [(Keyword.reference, .string "#/c")]])]),
    ("c", .object [("minLength", .ofInt 1)])]

def aliasNode : Json :=
  .object [("type", .string "integer"), (Keyword.reference, .string "#/a"), ("nullable", .bool true)]

def aliasMeaning : Json :=
  .object [("type", .string "string"), ("nullable", .bool true), ("format", .string "email"),
    ("anyOf", .array [.object [("minLength", .ofInt 1)]])]

theorem aliasNode_means :
    resolve aliasDocument 3 aliasNode = .ok aliasMeaning ∧
      Means aliasDocument aliasNode aliasMeaning ∧
      ∀ other, Means aliasDocument aliasNode other → other = aliasMeaning := by
  have resolved : resolve aliasDocument 3 aliasNode = .ok aliasMeaning := rfl
  exact ⟨resolved, resolve_gives_meaning aliasDocument aliasNode aliasMeaning 3 resolved⟩

end OperatorKit.Schema
