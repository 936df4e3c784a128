import OperatorKit.Proofs.Schema.Success

/-!
References that are inlined by hand. An object with a reference in a schema gives way to its fields
with the target laid over them, and the schema still resolves to the same result: the references met
in it are met in the schema as it was, after one more reference at most, and it has the same meaning.
-/

namespace OperatorKit.Schema

open Json (OnKey)

/-- One object in a value, wherever it stands, has its reference inlined: it is replaced by its other
fields with those of the target laid over them. -/
inductive Spliced (document : Json) : Json → Json → Prop where
  | here {fields upper : Fields} {p : String} :
      fields.lookup Keyword.reference = some (.string p) → Leads document p upper →
        Spliced document (.object fields) (.object (splice fields upper))
  | item {before after : List Json} {v w : Json} :
      Spliced document v w →
        Spliced document (.array (before ++ v :: after)) (.array (before ++ w :: after))
  | field {before after : Fields} {key : String} {v w : Json} :
      Spliced document v w →
        Spliced document (.object (before ++ (key, v) :: after)) (.object (before ++ (key, w) :: after))

inductive Inlined (document : Json) : Json → Json → Prop where
  | scalar {v : Json} : v.fields? = none ∧ v.items? = none → Inlined document v v
  | array {vs ws : List Json} :
      List.Forall₂ (Inlined document) vs ws → Inlined document (.array vs) (.array ws)
  | object {fields others : Fields} :
      List.Forall₂ (OnKey (Inlined document)) fields others →
        Inlined document (.object fields) (.object others)
  | splice {fields upper : Fields} {p : String} :
      fields.lookup Keyword.reference = some (.string p) → Leads document p upper →
        Inlined document (.object fields) (.object (splice fields upper))

variable {document v w : Json} {fields others : Fields}

theorem Inlined.refl (document v : Json) : Inlined document v v := by
  induction v using Json.induct with
  | scalar v plain => exact .scalar plain
  | array vs ih => exact .array (List.forall₂_same.mpr ih)
  | object fields ih =>
    exact .object (List.forall₂_same.mpr fun field member => .mk (ih field member))

theorem Spliced.inlined (spliced : Spliced document v w) : Inlined document v w := by
  induction spliced with
  | here next leads => exact .splice next leads
  | item _ ih =>
    have same : ∀ vs, List.Forall₂ (Inlined document) vs vs :=
      fun _ => List.forall₂_same.mpr fun v _ => .refl document v
    exact .array (List.rel_append (same _) (.cons ih (same _)))
  | field _ ih =>
    have same : ∀ fields, List.Forall₂ (OnKey (Inlined document)) fields fields :=
      fun _ => List.forall₂_same.mpr fun field _ => .mk (.refl document field.2)
    exact .object (List.rel_append (same _) (.cons (.mk ih) (same _)))

theorem lookup_of_inlined (pairs : List.Forall₂ (OnKey (Inlined document)) fields others)
    {key : String} {y : Json} (found : others.lookup key = some y) :
    ∃ x, fields.lookup key = some x ∧ Inlined document x y :=
  Json.lookup_some_left pairs found

theorem lookup_none_iff (pairs : List.Forall₂ (OnKey (Inlined document)) fields others)
    {key : String} : fields.lookup key = none ↔ others.lookup key = none := by
  have related := Json.lookup_onKey pairs key
  generalize fields.lookup key = found at related
  generalize others.lookup key = found' at related
  cases related <;> simp

theorem Inlined.string {p : String} (inlined : Inlined document v (.string p)) : v = .string p := by
  cases inlined
  rfl

theorem Inlined.of_string {p : String} (inlined : Inlined document (.string p) w) :
    w = .string p := by
  cases inlined
  rfl

theorem inlined_splice (pairs : List.Forall₂ (OnKey (Inlined document)) fields others)
    (upper : Fields) :
    List.Forall₂ (OnKey (Inlined document)) (splice fields upper) (splice others upper) :=
  Json.onKey_overlay (List.forall₂_same.mpr fun field _ => .mk (.refl document field.2))
    (Json.onKey_filter (fun key => key ≠ Keyword.reference) pairs)

theorem inlined_keepsUp (document : Json) : KeepsUp document (Inlined document) where
  step {v w w' label} inlined unfolds := by
    cases unfolds with
    | item member =>
      cases inlined with
      | scalar plain => cases plain.2
      | array items =>
        obtain ⟨u, member', below⟩ := exists_mem_of_forall₂ items.flip member
        exact ⟨[], u, Unfolds.reaches (.item member'), List.Subset.refl _, below⟩
    | @field _ field free member =>
      cases inlined with
      | scalar plain => cases plain.1
      | object pairs =>
        have kept_pairs := Json.onKey_filter (fun key => !Keyword.isStripped key) pairs
        obtain ⟨before, member', below⟩ := exists_mem_of_forall₂ kept_pairs.flip member
        obtain ⟨related⟩ := below
        have free' := (lookup_none_iff pairs).mpr free
        exact ⟨[], _, Unfolds.reaches (.field free' member'), List.Subset.refl _, related⟩
      | @splice fields upper p next leads =>
        have first := Unfolds.reaches (.follow next leads)
        exact ⟨_, _, first.trans (Unfolds.reaches (.field free member)), List.nil_subset _,
          .refl document _⟩
    | @follow others target q next leads =>
      cases inlined with
      | scalar plain => cases plain.1
      | object pairs =>
        obtain ⟨x, next', related⟩ := lookup_of_inlined pairs next
        cases related.string
        exact ⟨_, _, Unfolds.reaches (.follow next' leads), List.Subset.refl _,
          .object (inlined_splice pairs target)⟩
      | @splice fields upper p next' leads' =>
        have first := Unfolds.reaches (.follow next' leads')
        exact ⟨_, _, first.trans (Unfolds.reaches (.follow next leads)),
          List.subset_append_right _ _, .refl document _⟩
  meets {v y others} inlined next := by
    cases inlined with
    | scalar plain => cases plain.1
    | object pairs =>
      obtain ⟨x, next', related⟩ := lookup_of_inlined pairs next
      refine ⟨[], x, ⟨_, .here, next'⟩, ?_⟩
      rintro p rfl
      exact related.of_string
    | @splice fields upper p next' leads =>
      exact ⟨_, y, ⟨_, Unfolds.reaches (.follow next' leads), next⟩, fun _ same => same⟩

/-- A chain goes on in the same way, and ends with fields that are related as those at its start. -/
theorem Chain.inlined {merged : Fields} {links : List (String × Fields)}
    (chain : Chain document fields links merged)
    (pairs : List.Forall₂ (OnKey (Inlined document)) fields others) :
    ∃ merged', Chain document others links merged' ∧
      List.Forall₂ (OnKey (Inlined document)) merged merged' := by
  induction chain generalizing others with
  | done free => exact ⟨others, .done ((lookup_none_iff pairs).mp free), pairs⟩
  | @link fields upper merged p links next leads _ ih =>
    obtain ⟨merged', chain', pairs'⟩ := ih (inlined_splice pairs upper)
    have related := Json.lookup_onKey pairs Keyword.reference
    rw [next] at related
    generalize there : others.lookup Keyword.reference = found at related
    cases related with
    | some text =>
      cases text.of_string
      exact ⟨merged', .link there leads chain', pairs'⟩

theorem Means.inlined {r : Json} (means : Means document v r) :
    ∀ w, Inlined document v w → Means document w r := by
  refine Means.induct ?scalar ?array ?object means
  case scalar =>
    intro v plain w inlined
    cases inlined with
    | scalar _ => exact .scalar plain
    | array _ => cases plain.2
    | _ => cases plain.1
  case array =>
    intro vs rs items w inlined
    cases inlined with
    | scalar plain => cases plain.2
    | array related =>
      exact .array (forall₂_comp related.flip items fun _ _ _ below means => means _ below)
  case object =>
    intro fields merged results links chain keys values w inlined
    have pairs := Json.onKey_iff.mpr ⟨keys, values⟩
    cases inlined with
    | scalar plain => cases plain.1
    | object related =>
      obtain ⟨merged', chain', related'⟩ := chain.inlined related
      have kept_related := Json.onKey_filter (fun key => !Keyword.isStripped key) related'
      refine means_object_iff.mpr ⟨links, merged', results, chain', rfl, ?_⟩
      refine forall₂_comp kept_related.flip pairs fun _ _ _ below means => ?_
      obtain ⟨both⟩ := below
      obtain ⟨means⟩ := means
      exact .mk (means _ both)
    -- The first link of the chain is the reference that was inlined; the others are followed still.
    | @splice fields upper p next leads =>
      cases chain with
      | done free => cases free.symm.trans next
      | link next' leads' chain =>
        cases next.symm.trans next'
        cases leads.unique leads'
        refine means_object_iff.mpr ⟨_, merged, results, chain, rfl, pairs.imp fun _ _ pair => ?_⟩
        obtain ⟨means⟩ := pair
        exact .mk (means _ (.refl document _))

/-- A schema with one of its references inlined by hand, wherever it stands, resolves as the schema
does, to the same result with the same order of keys. -/
theorem resolve_of_spliced (document node edited r : Json) (limit : Nat)
    (spliced : Spliced document node edited) (resolved : resolve document limit node = .ok r) :
    resolve document limit edited = .ok r := by
  obtain ⟨passable, means, low⟩ := resolve_ok_iff.mp resolved
  have inlined := spliced.inlined
  exact resolve_ok_iff.mpr
    ⟨(inlined_keepsUp document).passable inlined passable, means.inlined edited inlined, low⟩

def inlinedNode : Json :=
  .object [("type", .string "integer"), ("nullable", .bool true),
    (Keyword.reference, .string "#/b"), ("format", .string "email"), ("x-order", .null)]

theorem inlinedNode_resolves :
    Spliced aliasDocument (.array [.null, .object [("items", aliasNode)]])
        (.array [.null, .object [("items", inlinedNode)]]) ∧
      resolve aliasDocument 5 (.array [.null, .object [("items", aliasNode)]]) =
        .ok (.array [.null, .object [("items", aliasMeaning)]]) ∧
      resolve aliasDocument 5 (.array [.null, .object [("items", inlinedNode)]]) =
        .ok (.array [.null, .object [("items", aliasMeaning)]]) := by
  have leads : Leads aliasDocument "#/a" [(Keyword.reference, .string "#/b"),
      ("format", .string "email"), ("x-order", .null)] := ⟨⟨"#/a", [], "a"⟩, rfl, rfl⟩
  have inner : Spliced aliasDocument aliasNode inlinedNode := .here rfl leads
  have spliced : Spliced aliasDocument (.array [.null, .object [("items", aliasNode)]])
      (.array [.null, .object [("items", inlinedNode)]]) :=
    @Spliced.item _ [.null] [] _ _ (@Spliced.field _ [] [] "items" _ _ inner)
  have resolved : resolve aliasDocument 5 (.array [.null, .object [("items", aliasNode)]]) =
      .ok (.array [.null, .object [("items", aliasMeaning)]]) := rfl
  exact ⟨spliced, resolved, resolve_of_spliced _ _ _ _ 5 spliced resolved⟩

end OperatorKit.Schema
