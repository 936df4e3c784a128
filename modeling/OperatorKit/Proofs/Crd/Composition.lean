import OperatorKit.Proofs.Crd.Clean
import OperatorKit.Proofs.Crd.Slot

/-!
What is generated, as a whole: the definitions of all kinds in their order, or nothing. A definition
is an envelope that differs from the empty one only in the slot, and a failure is that of the first
kind without a schema, which it names.
-/

namespace OperatorKit

namespace Json

def OpensWith (v : Json) (key : String) : Prop :=
  ∃ value rest, v = .object ((key, value) :: rest)

variable {fields upper : Fields} {key other : String} {value : Json}

theorem OpensWith.put (opens : OpensWith (.object fields) key) :
    OpensWith (.object (Entries.put fields other value)) key := by
  obtain ⟨first, rest, same⟩ := opens
  cases same
  unfold Entries.put
  split
  · exact ⟨value, rest, rfl⟩
  · exact ⟨first, _, rfl⟩

theorem OpensWith.overlay (opens : OpensWith (.object fields) key) :
    OpensWith (.object (Entries.overlay fields upper)) key := by
  induction upper generalizing fields with
  | nil => exact opens
  | cons field rest ih => exact ih opens.put

theorem OpensWith.filter {p : String × Json → Bool} (opens : OpensWith (.object fields) key)
    (stays : ∀ value, p (key, value) = true) : OpensWith (.object (fields.filter p)) key := by
  obtain ⟨first, rest, same⟩ := opens
  cases same
  exact ⟨first, rest.filter p, by rw [List.filter_cons, if_pos (stays first)]⟩

end Json

namespace Schema

open Json

variable {document : Json} {limit : Nat} {key : String}

theorem Chain.opensWith {fields merged : Fields} {links : List (String × Fields)}
    (chain : Chain document fields links merged) (plain : key ≠ Keyword.reference)
    (opens : OpensWith (.object fields) key) : OpensWith (.object merged) key := by
  induction chain with
  | done _ => exact opens
  | link _ _ _ ih => exact ih (opens.filter fun _ => decide_eq_true plain).overlay

/-- A first key that survives resolution stays first, whatever the references bring. -/
theorem resolve_opensWith {fields : Fields} {r : Json} (plain : key ≠ Keyword.reference)
    (survives : Keyword.isStripped key = false) (opens : OpensWith (.object fields) key)
    (resolved : resolve document limit (.object fields) = .ok r) : r.OpensWith key := by
  obtain ⟨links, merged, rs, chain, _, rfl, each⟩ := resolveValue_object_ok resolved
  have opened := (chain.opensWith plain opens).filter (p := fun field => !Keyword.isStripped field.1)
    fun _ => congrArg not survives
  obtain ⟨value, rest, same⟩ := opened
  rw [show kept merged = (key, value) :: rest from Json.object.inj same] at each
  obtain ⟨⟨name, v⟩, results, ⟨named, _⟩, _, rfl⟩ := List.forall₂_cons_left_iff.mp each
  cases named
  exact ⟨v, results, rfl⟩

end Schema

def CrdError.kind? : CrdError → Option String
  | shapeMismatch kind _ _ => some kind
  | schema kind _ => some kind
  | _ => none

namespace Rules

variable {spec : Json} {e : CrdError}

theorem gather_error {index : Nat} {properties : Fields} {keys : List String}
    {variants : List Json} (failed : gather index properties keys variants = .error e) :
    e.kind? = some ResourceKind.accessGroup.name := by
  induction variants generalizing index properties keys with
  | nil => cases failed
  | cons v rest ih =>
    unfold gather at failed
    split at failed
    · cases failed
      rfl
    · exact ih failed

theorem restructure_error (failed : restructure spec = .error e) :
    e.kind? = some ResourceKind.accessGroup.name := by
  unfold restructure at failed
  split at failed
  · rename_i built
    cases failed
    unfold ruleSchema at built
    split at built
    · cases built
      rfl
    · exact gather_error (error_of_map built)
  · split at failed <;> cases failed
    rfl

theorem restructure_opensWith {spec' : Json} {key : String} (opens : spec.OpensWith key)
    (done : restructure spec = .ok spec') : spec'.OpensWith key := by
  unfold restructure at done
  split at done
  · cases done
  · split at done
    · cases done
    · cases done
      obtain ⟨value, rest, rfl⟩ := opens
      rw [Json.setChild]
      split
      · exact Json.OpensWith.put ⟨value, rest, rfl⟩
      · exact ⟨value, rest, rfl⟩

end Rules

namespace ResourceKind

variable {kind : ResourceKind} {document : Json} {limit : Nat}

theorem specSchema_error {e : CrdError} (failed : kind.specSchema document limit = .error e) :
    e.kind? = some kind.name := by
  unfold specSchema resolved at failed
  split at failed
  · rename_i unresolved
    cases failed
    split at unresolved
    · rename_i missing
      cases unresolved
      unfold sourceSchema at missing
      split at missing <;> cases missing <;> rfl
    · split at unresolved <;> cases unresolved
      rfl
  · split at failed
    · rename_i isGroup
      rw [isGroup]
      exact Rules.restructure_error failed
    · cases failed

theorem resolved_opensWith {spec : Json} (built : kind.resolved document limit = .ok spec) :
    spec.OpensWith "type" := by
  unfold resolved at built
  split at built
  · cases built
  · split at built
    · cases built
    · rename_i fields _ r done
      cases built
      have seed : Json.OpensWith (.object [("type", .string "object")]) "type" := ⟨_, _, rfl⟩
      exact Schema.resolve_opensWith (by decide) (by decide) seed.overlay done

theorem specSchema_opensWith {spec : Json} (built : kind.specSchema document limit = .ok spec) :
    spec.OpensWith "type" := by
  unfold specSchema at built
  split at built
  · cases built
  · rename_i plain resolved
    have opens := resolved_opensWith resolved
    split at built
    · exact Rules.restructure_opensWith opens built
    · cases built
      exact opens

end ResourceKind

/-- A definition is the envelope of some names with a schema in its slot, and nothing else of the
envelope is changed. -/
structure Envelope.Holds (names : ResourceNames) (schema crd : Json) : Prop where
  slotted : crd.at? slot = some schema
  within : ∀ rest, crd.at? (slot ++ rest) = schema.at? rest
  beside : ∀ path, Json.Apart slot path → crd.at? path = (build names).at? path
  emptied : crd.setAt slot .null = build names

theorem Envelope.holds_embed (names : ResourceNames) (schema : Json) :
    Holds names schema (embed (build names) schema) where
  slotted := at?_embed names schema
  within rest := by rw [Json.at?_append, at?_embed, Option.bind_some]
  beside _ apart := Json.at?_setAt_of_apart apart
  emptied := rfl

theorem Envelope.embedded?_eq {crd schema : Json} {key : String}
    (slotted : crd.at? slot = some schema) (opens : schema.OpensWith key) :
    embedded? crd = some schema := by
  obtain ⟨value, rest, rfl⟩ := opens
  exact embedded?_of_at? slotted Json.noConfusion

namespace ResourceKind

variable {kind : ResourceKind} {document : Json} {limit : Nat}

theorem definition_ok_iff {crd : Json} : kind.definition document limit = .ok crd ↔
    ∃ spec, kind.specSchema document limit = .ok spec ∧
      crd = Envelope.embed (Envelope.build kind.names) spec := by
  constructor
  · intro defined
    obtain ⟨spec, built, same⟩ := ok_of_map defined
    exact ⟨spec, built, same.symm⟩
  · rintro ⟨spec, built, rfl⟩
    rw [definition, built]
    rfl

theorem definition_error_iff {e : CrdError} : kind.definition document limit = .error e ↔
    kind.specSchema document limit = .error e := by
  constructor
  · exact error_of_map
  · intro failed
    rw [definition, failed]
    rfl

theorem exists_definition_iff :
    (∃ crd, kind.definition document limit = .ok crd) ↔
      ∃ spec, kind.specSchema document limit = .ok spec := by
  simp only [definition_ok_iff]
  constructor
  · rintro ⟨_, spec, built, _⟩
    exact ⟨spec, built⟩
  · rintro ⟨spec, built⟩
    exact ⟨_, spec, built, rfl⟩

end ResourceKind

namespace Manifest

variable {document : Json} {limit : Nat}

theorem generate_ok_iff {list : ObjectList} : generate document limit = .ok list ↔
    list = .ofItems list.items ∧
      List.Forall₂ (fun kind crd => ResourceKind.definition kind document limit = .ok crd)
        ResourceKind.all list.items := by
  constructor
  · intro generated
    obtain ⟨items, each, rfl⟩ := ok_of_map generated
    exact ⟨rfl, mapM_ok_iff.mp each⟩
  · rintro ⟨same, each⟩
    rw [generate, mapM_ok_iff.mpr each, same]
    rfl

theorem generate_error_iff {e : CrdError} : generate document limit = .error e ↔
    ∃ before kind after, ResourceKind.all = before ++ kind :: after ∧
      (∀ earlier ∈ before, ∃ crd, earlier.definition document limit = .ok crd) ∧
      kind.definition document limit = .error e := by
  rw [← mapM_error_iff]
  constructor
  · exact error_of_map
  · intro failed
    rw [generate, failed]
    rfl

/-- There is a list if and only if every kind has a schema. It holds the definitions of the three
kinds in their order, each the envelope of its kind with the schema of its kind in the slot, an
object that opens with its type. If there is none, that is for the reason of the first kind without a
schema, and the reason names this kind. -/
theorem generate_composes (document : Json) (limit : Nat) :
    ((∃ list, generate document limit = .ok list) ↔
      ∀ kind : ResourceKind, ∃ spec, kind.specSchema document limit = .ok spec) ∧
    (∀ list, generate document limit = .ok list →
      list = .ofItems list.items ∧
      List.Forall₂ (fun (kind : ResourceKind) crd => ∃ spec,
          kind.specSchema document limit = .ok spec ∧ Envelope.Holds kind.names spec crd ∧
          spec.OpensWith "type" ∧ Envelope.embedded? crd = some spec)
        [.accessGroup, .tunnel, .tunnelConfig] list.items) ∧
    ∀ e, generate document limit = .error e ↔
      ∃ before kind after,
        [ResourceKind.accessGroup, .tunnel, .tunnelConfig] = before ++ kind :: after ∧
        (∀ earlier ∈ before, ∃ spec, earlier.specSchema document limit = .ok spec) ∧
        kind.specSchema document limit = .error e ∧ e.kind? = some kind.name := by
  refine ⟨⟨?_, fun built => ?_⟩, fun list generated => ?_, fun e => ?_⟩
  · rintro ⟨list, generated⟩ kind
    obtain ⟨_, each⟩ := generate_ok_iff.mp generated
    have member : kind ∈ ResourceKind.all := by cases kind <;> decide
    obtain ⟨crd, _, defined⟩ := exists_mem_of_forall₂ each member
    exact ResourceKind.exists_definition_iff.mp ⟨crd, defined⟩
  · cases generated : generate document limit with
    | ok list => exact ⟨list, rfl⟩
    | error e =>
      obtain ⟨_, kind, _, _, _, failed⟩ := generate_error_iff.mp generated
      obtain ⟨spec, done⟩ := built kind
      cases done.symm.trans (ResourceKind.definition_error_iff.mp failed)
  · obtain ⟨same, each⟩ := generate_ok_iff.mp generated
    refine ⟨same, each.imp fun kind crd defined => ?_⟩
    obtain ⟨spec, built, rfl⟩ := ResourceKind.definition_ok_iff.mp defined
    have opens := ResourceKind.specSchema_opensWith built
    have holds := Envelope.holds_embed kind.names spec
    exact ⟨spec, built, holds, opens, Envelope.embedded?_eq holds.slotted opens⟩
  · rw [generate_error_iff]
    simp only [ResourceKind.exists_definition_iff, ResourceKind.definition_error_iff]
    constructor
    · rintro ⟨before, kind, after, split, done, failed⟩
      exact ⟨before, kind, after, split, done, failed, ResourceKind.specSchema_error failed⟩
    · rintro ⟨before, kind, after, split, done, failed, _⟩
      exact ⟨before, kind, after, split, done, failed⟩

def groupDocument : Json :=
  .object [("paths", .object [requestOf .accessGroup (.object [("properties", .object [("include",
    .object [("items", .object [("oneOf", .array [])])])])])])]

theorem groupDocument_lacks_tunnel :
    (∃ list, generate smallDocument 9 = .ok list ∧
      List.Forall₂ (fun (kind : ResourceKind) crd => ∃ spec, Envelope.Holds kind.names spec crd ∧
          Envelope.embedded? crd = some spec)
        [.accessGroup, .tunnel, .tunnelConfig] list.items) ∧
      generate groupDocument 9 =
        .error (ResourceKind.tunnel.mismatch "path not found in document") := by
  constructor
  · obtain ⟨_, composed, _⟩ := generate_composes smallDocument 9
    obtain ⟨_, each⟩ := composed _ rfl
    refine ⟨_, rfl, each.imp ?_⟩
    rintro kind crd ⟨spec, _, holds, _, found⟩
    exact ⟨spec, holds, found⟩
  · obtain ⟨_, _, refused⟩ := generate_composes groupDocument 9
    have grouped : ∀ earlier ∈ [ResourceKind.accessGroup],
        ∃ spec, earlier.specSchema groupDocument 9 = .ok spec :=
      List.forall_mem_singleton.mpr ⟨_, rfl⟩
    exact (refused _).mpr ⟨[.accessGroup], .tunnel, [.tunnelConfig], rfl, grouped, rfl, rfl⟩

end Manifest

end OperatorKit
