import OperatorKit.Proofs.Crd.Clean
import OperatorKit.Proofs.Schema.Success

/-!
The type that a request body is given before it is resolved. It stands below all that the schema says
itself or through its references, so it never decides whether the schema resolves, and in the result
it is only seen where the schema says nothing of its type. The key comes first in either case.
-/

namespace OperatorKit

namespace Fields

open Entries

/-- One key in front of the others, under its own value or, if it has none, under another. -/
def inFront (fields : Fields) (key : String) (fallback : Json) : Fields :=
  (key, (fields.lookup key).getD fallback) :: erase fields key

variable {fields upper : Fields} {key : String} {fallback : Json}

theorem lookup_inFront (other : String) : (inFront fields key fallback).lookup other =
    if other = key then some ((fields.lookup key).getD fallback) else fields.lookup other := by
  rw [inFront, lookup_cons, lookup_erase]
  split <;> rfl

theorem inFront_put (other : String) (value : Json) :
    put (inFront fields key fallback) other value = inFront (put fields other value) key fallback := by
  rw [inFront, inFront, lookup_put, erase_put, put]
  by_cases same : key = other
  · subst same
    simp
  · rw [if_neg same, if_neg same, if_neg (Ne.symm same)]

theorem inFront_overlay :
    overlay (inFront fields key fallback) upper = inFront (overlay fields upper) key fallback := by
  induction upper generalizing fields with
  | nil => rfl
  | cons field rest ih =>
    rw [overlay_cons, overlay_cons, inFront_put, ih]

theorem inFront_filter (keep : String → Bool) (stays : keep key = true) :
    (inFront fields key fallback).filter (fun field => keep field.1) =
      inFront (fields.filter fun field => keep field.1) key fallback := by
  rw [inFront, inFront, List.filter_cons, if_pos stays, lookup_filter, if_pos stays, erase, erase,
    List.filter_comm]

/-- Laid over a single field, an object takes its value and keeps its place. -/
theorem overlay_singleton (distinct : (fields.map (·.1)).Nodup) :
    overlay [(key, fallback)] fields = inFront fields key fallback := by
  have whole : overlay [] fields = fields := overlay_eq_append distinct
  have alone : [(key, fallback)] = inFront [] key fallback := rfl
  rw [alone, inFront_overlay, whole]

theorem nodup_inFront (distinct : (fields.map (·.1)).Nodup) :
    ((inFront fields key fallback).map (·.1)).Nodup := by
  rw [← overlay_singleton distinct]
  exact nodup_overlay (List.nodup_singleton key)

end Fields

namespace Schema

open Json (OnKey)

/-- The second object has the reference of the first, and its keys lead to what they lead to in the
first or to scalars. -/
structure Within (fields others : Fields) : Prop where
  distinct : (others.map (·.1)).Nodup
  reference : others.lookup Keyword.reference = fields.lookup Keyword.reference
  found (key : String) (v : Json) : others.lookup key = some v →
    fields.lookup key = some v ∨ v.fields? = none ∧ v.items? = none

variable {document : Json} {fields others : Fields}

theorem Within.splice (inside : Within fields others) (upper : Fields) :
    Within (splice fields upper) (splice others upper) where
  distinct := Entries.nodup_overlay (Entries.nodup_filter inside.distinct _)
  reference := by
    simp only [Schema.splice, Entries.lookup_overlay, Entries.lookup_erase, if_pos]
  found key v := by
    simp only [Schema.splice, Entries.lookup_overlay, Entries.lookup_erase]
    cases upper.reverse.lookup key with
    | some w => exact Or.inl
    | none =>
      by_cases same : key = Keyword.reference
      · simp [same]
      · simpa [same] using inside.found key v

inductive LiesWithin : Json → Json → Prop where
  | same {v : Json} : LiesWithin v v
  | scalar {v w : Json} : w.fields? = none ∧ w.items? = none → LiesWithin v w
  | object {fields others : Fields} : Within fields others → LiesWithin (.object fields) (.object others)

theorem liesWithin_keepsUp (document : Json) : KeepsUp document LiesWithin where
  step {v w w' label} related unfolds := by
    cases related with
    | same => exact ⟨label, w', unfolds.reaches, List.Subset.refl _, .same⟩
    | scalar plain =>
      cases unfolds with
      | item _ => cases plain.2
      | _ => cases plain.1
    | @object fields others inside =>
      cases unfolds with
      | @field _ field free member =>
        obtain ⟨there, plain⟩ := mem_kept.mp member
        have looked := (Entries.lookup_eq_some_iff inside.distinct).mpr there
        rcases inside.found _ _ looked with found | scalar
        · have kept := mem_kept.mpr ⟨Entries.mem_of_lookup found, plain⟩
          exact ⟨[], field.2, Unfolds.reaches (.field (inside.reference ▸ free) kept),
            List.Subset.refl _, .same⟩
        -- A scalar of the second object only: the first has nothing to unfold for it, and need not.
        · exact ⟨[], _, .here, List.Subset.refl _, .scalar scalar⟩
      | @follow _ upper p next leads =>
        exact ⟨[p], _, Unfolds.reaches (.follow (inside.reference ▸ next) leads),
          List.Subset.refl _, .object (inside.splice upper)⟩
  meets {v y others} related next := by
    cases related with
    | same => exact ⟨[], y, ⟨_, .here, next⟩, fun _ same => same⟩
    | scalar plain => cases plain.1
    | object inside =>
      exact ⟨[], y, ⟨_, .here, inside.reference ▸ next⟩, fun _ same => same⟩

section Key

variable {key : String} {fallback : Json}

theorem splice_inFront (plain : key ≠ Keyword.reference) (upper : Fields) :
    splice (Fields.inFront fields key fallback) upper =
      Fields.inFront (splice fields upper) key fallback := by
  have erased : Entries.erase (Fields.inFront fields key fallback) Keyword.reference =
      Fields.inFront (Entries.erase fields Keyword.reference) key fallback :=
    Fields.inFront_filter (fun k => k ≠ Keyword.reference) (decide_eq_true plain)
  rw [splice, erased, Fields.inFront_overlay, ← splice]

theorem lookup_reference_inFront (plain : key ≠ Keyword.reference) (fields : Fields) :
    (Fields.inFront fields key fallback).lookup Keyword.reference =
      fields.lookup Keyword.reference := by
  rw [Fields.lookup_inFront, if_neg (Ne.symm plain)]

theorem Chain.inFront {merged : Fields} {links : List (String × Fields)}
    (plain : key ≠ Keyword.reference) (chain : Chain document fields links merged) :
    Chain document (Fields.inFront fields key fallback) links
      (Fields.inFront merged key fallback) := by
  induction chain with
  | done free => exact .done ((lookup_reference_inFront plain _).trans free)
  | @link fields upper merged p links next leads _ ih =>
    rw [← splice_inFront plain] at ih
    exact .link ((lookup_reference_inFront plain fields).trans next) leads ih

theorem Chain.nodup {merged : Fields} {links : List (String × Fields)}
    (chain : Chain document fields links merged) (distinct : (fields.map (·.1)).Nodup) :
    (merged.map (·.1)).Nodup := by
  induction chain with
  | done _ => exact distinct
  | link _ _ _ ih => exact ih (Entries.nodup_overlay (Entries.nodup_filter distinct _))

theorem means_inFront {results : Fields} (plain : key ≠ Keyword.reference)
    (survives : Keyword.isStripped key = false)
    (scalar : fallback.fields? = none ∧ fallback.items? = none)
    (means : Means document (.object fields) (.object results)) :
    Means document (.object (Fields.inFront fields key fallback))
      (.object (Fields.inFront results key fallback)) := by
  obtain ⟨links, merged, _, chain, same, pairs⟩ := means_object_iff.mp means
  cases same
  refine means_object_iff.mpr ⟨links, _, _, chain.inFront plain, rfl, ?_⟩
  have order : kept (Fields.inFront merged key fallback) =
      Fields.inFront (kept merged) key fallback :=
    Fields.inFront_filter (fun k => !Keyword.isStripped k) (by simp [survives])
  rw [order]
  refine .cons (.mk ?_) (Json.onKey_filter (fun k => k ≠ key) pairs)
  have value := Json.lookup_onKey pairs key
  generalize (kept merged).lookup key = found at value
  generalize results.lookup key = found' at value
  cases value with
  | none => exact .scalar scalar
  | some below => exact below

/-- A scalar in front adds a level to a result that has none, and nothing else. -/
theorem height_inFront_le_iff {limit : Nat} (distinct : (fields.map (·.1)).Nodup)
    (scalar : fallback.height = 0) (positive : 1 ≤ limit) :
    (Json.object (Fields.inFront fields key fallback)).height ≤ limit ↔
      (Json.object fields).height ≤ limit := by
  rw [Json.height_object_le_iff, Json.height_object_le_iff, Fields.inFront, List.forall_mem_cons]
  constructor
  · rintro ⟨first, others⟩ field member
    by_cases same : field.1 = key
    · have looked := (Entries.lookup_eq_some_iff distinct).mpr member
      rw [← same, looked] at first
      exact first
    · exact others field (Entries.mem_erase.mpr ⟨member, same⟩)
  · intro each
    refine ⟨?_, fun field member => each field (Entries.mem_erase.mp member).1⟩
    cases found : fields.lookup key with
    | none => exact Nat.lt_of_lt_of_le (Nat.lt_of_le_of_lt (Nat.le_of_eq scalar) Nat.one_pos) positive
    | some v => exact each _ (Entries.mem_of_lookup found)

theorem Means.nodup {results : Fields} (means : Means document (.object fields) (.object results))
    (distinct : (fields.map (·.1)).Nodup) : (results.map (·.1)).Nodup := by
  obtain ⟨links, merged, _, chain, same, pairs⟩ := means_object_iff.mp means
  cases same
  rw [← Json.keys_eq pairs]
  exact Entries.nodup_filter (chain.nodup distinct) _

theorem within_inFront (distinct : (fields.map (·.1)).Nodup) (plain : key ≠ Keyword.reference)
    (scalar : fallback.fields? = none ∧ fallback.items? = none) :
    Within fields (Fields.inFront fields key fallback) ∧
      Within (Fields.inFront fields key fallback) fields := by
  have same : (Fields.inFront fields key fallback).lookup Keyword.reference =
      fields.lookup Keyword.reference := lookup_reference_inFront plain fields
  refine ⟨⟨Fields.nodup_inFront distinct, same, fun other v => ?_⟩,
    ⟨distinct, same.symm, fun other v found => ?_⟩⟩
  · rw [Fields.lookup_inFront]
    by_cases here : other = key
    · rw [if_pos here, here]
      cases fields.lookup key with
      | none =>
        rintro ⟨⟩
        exact Or.inr scalar
      | some w => exact Or.inl
    · rw [if_neg here]
      exact Or.inl
  · rw [Fields.lookup_inFront]
    by_cases here : other = key
    · rw [if_pos here, ← here, found]
      exact Or.inl rfl
    · rw [if_neg here]
      exact Or.inl found

theorem resolve_inFront_iff {limit : Nat} {r : Json} (distinct : (fields.map (·.1)).Nodup)
    (plain : key ≠ Keyword.reference) (survives : Keyword.isStripped key = false)
    (scalar : fallback.fields? = none ∧ fallback.items? = none) (positive : 1 ≤ limit) :
    resolve document limit (.object (Fields.inFront fields key fallback)) = .ok r ↔
      ∃ results, resolve document limit (.object fields) = .ok (.object results) ∧
        r = .object (Fields.inFront results key fallback) := by
  obtain ⟨inside, around⟩ := within_inFront distinct plain scalar
  have keepsUp := liesWithin_keepsUp document
  have flat := Json.height_scalar scalar
  constructor
  · intro run
    obtain ⟨passable, means, low⟩ := resolve_ok_iff.mp run
    have passable' := keepsUp.passable (.object around) passable
    obtain ⟨r', run'⟩ := passable'.resolves (Nat.le_refl _)
    obtain ⟨results, rfl⟩ := exists_fields_of_resolve run'
    have means' := means_of_resolveValue run'
    cases means.unique _ (means_inFront plain survives scalar means')
    have low' := (height_inFront_le_iff (means'.nodup distinct) flat positive).mp low
    exact ⟨results, resolve_ok_iff.mpr ⟨passable', means', low'⟩, rfl⟩
  · rintro ⟨results, run, rfl⟩
    obtain ⟨passable, means, low⟩ := resolve_ok_iff.mp run
    exact resolve_ok_iff.mpr ⟨keepsUp.passable (.object inside) passable,
      means_inFront plain survives scalar means,
      (height_inFront_le_iff (means.nodup distinct) flat positive).mpr low⟩

end Key

end Schema

namespace ResourceKind

variable {kind : ResourceKind} {document : Json} {schema : Fields} {limit : Nat}

theorem resolved_ok_iff (found : document.walk? kind.schemaPath = some (.object schema))
    (distinct : (schema.map (·.1)).Nodup) (positive : 1 ≤ limit) {spec : Json} :
    kind.resolved document limit = .ok spec ↔
      ∃ fields, Schema.resolve document limit (.object schema) = .ok (.object fields) ∧
        spec = .object (Fields.inFront fields "type" (.string "object")) := by
  have source : kind.sourceSchema document = .ok schema := by rw [sourceSchema, found]
  have unnamed : kind.resolved document limit = .ok spec ↔
      Schema.resolve document limit (.object (seeded schema)) = .ok spec := by
    simp only [resolved, source]
    generalize Schema.resolve document limit (.object (seeded schema)) = outcome
    cases outcome <;> simp
  rw [unnamed, seeded, Fields.overlay_singleton distinct]
  exact Schema.resolve_inFront_iff distinct (by decide) (by decide) ⟨rfl, rfl⟩ positive

/-- A body is resolved with its type given beforehand exactly if it is resolved without, and to the
same fields, but that the type comes first and says that the body is an object where neither the
schema nor what it refers to has a type. -/
theorem resolved_like_source (kind : ResourceKind) (document : Json) (schema : Fields) (limit : Nat)
    (found : document.walk? kind.schemaPath = some (.object schema))
    (distinct : (schema.map (·.1)).Nodup) (positive : 1 ≤ limit) :
    ((∃ spec, kind.resolved document limit = .ok spec) ↔
      ∃ r, Schema.resolve document limit (.object schema) = .ok r) ∧
    ∀ r, Schema.resolve document limit (.object schema) = .ok r →
      ∃ fields, r = .object fields ∧
        kind.resolved document limit =
          .ok (.object (("type", (fields.lookup "type").getD (.string "object")) ::
            Entries.erase fields "type")) := by
  refine ⟨⟨?_, ?_⟩, ?_⟩
  · rintro ⟨spec, built⟩
    obtain ⟨fields, run, _⟩ := (resolved_ok_iff found distinct positive).mp built
    exact ⟨_, run⟩
  · rintro ⟨r, run⟩
    obtain ⟨fields, rfl⟩ := Schema.exists_fields_of_resolve run
    exact ⟨_, (resolved_ok_iff found distinct positive).mpr ⟨fields, run, rfl⟩⟩
  · intro r run
    obtain ⟨fields, rfl⟩ := Schema.exists_fields_of_resolve run
    exact ⟨fields, rfl, (resolved_ok_iff found distinct positive).mpr ⟨fields, run, rfl⟩⟩

def typedBody : Fields :=
  [("nullable", .bool true), (Keyword.reference, .string "#/a")]

def typedDocument : Json :=
  .object [
    ("paths", .object [requestOf .tunnel (.object typedBody),
      requestOf .tunnelConfig (.object [("title", .string "Empty")])]),
    ("a", .object [(Keyword.reference, .string "#/b"), ("type", .string "string")]),
    ("b", .object [("type", .string "array"), ("minItems", .ofInt 1)])]

/-- Without any level below the body there is no room for the type either. -/
example :
    Schema.resolve typedDocument 0 (.object [("title", .string "Empty")]) = .ok (.object []) ∧
    ResourceKind.tunnelConfig.resolved typedDocument 0 =
      .error (.schema "CFDTunnelConfig" (.tooDeep 0)) :=
  ⟨rfl, rfl⟩

theorem typedBody_resolved :
    typedDocument.walk? tunnel.schemaPath = some (.object typedBody) ∧
      (typedBody.map (·.1)).Nodup ∧
      Schema.resolve typedDocument 1 (.object typedBody) = .ok (.object
        [("nullable", .bool true), ("type", .string "array"), ("minItems", .ofInt 1)]) ∧
      tunnel.resolved typedDocument 1 = .ok (.object
        [("type", .string "array"), ("nullable", .bool true), ("minItems", .ofInt 1)]) ∧
      Schema.resolve typedDocument 1 (.object [("title", .string "Empty")]) = .ok (.object []) ∧
      tunnelConfig.resolved typedDocument 1 = .ok (.object [("type", .string "object")]) := by
  have distinct : (typedBody.map (·.1)).Nodup := by decide
  obtain ⟨_, gives⟩ := resolved_like_source .tunnel typedDocument typedBody 1 rfl distinct
    (Nat.le_refl 1)
  obtain ⟨_, same, done⟩ := gives _ rfl
  cases same
  obtain ⟨_, gives'⟩ := resolved_like_source .tunnelConfig typedDocument _ 1 rfl
    (List.nodup_singleton "title") (Nat.le_refl 1)
  obtain ⟨_, same', done'⟩ := gives' _ rfl
  cases same'
  exact ⟨rfl, distinct, rfl, done, rfl, done'⟩

end ResourceKind

end OperatorKit
