import OperatorKit.Proofs.Crd.Restructuring
import OperatorKit.Proofs.Schema.Required

/-!
Required properties of a definition. The schema of a definition declares all that it requires if what
the body of the request unfolds to does so under names that survive. The rules of an access group are
put together anew, and keep this unless they look like a schema themselves: a rule called `required`
may list what one called `properties` does not declare.
-/

namespace OperatorKit

open Fields (DeclaresRequired)

namespace Rules

def rulesPath : List String :=
  ["properties", "include", "items", "properties"]

variable {spec after rule : Json} {properties : Fields} {keys : List String}

theorem listOf_declares (declares : rule.Throughout DeclaresRequired) :
    (listOf rule).Throughout DeclaresRequired := by
  refine Fields.throughout_of_unlisted rfl ?_
  simpa using ⟨Fields.throughout_text "array", declares⟩

theorem alternative_declares (key : String) :
    (Json.object [("required", .strings [key])]).Throughout DeclaresRequired := by
  refine Json.throughout_object_iff.mpr ⟨Fields.declaresRequired_of_bare rfl, ?_⟩
  simpa using Fields.throughout_strings [key]

theorem ofProperties_declares (declares : (Json.object properties).Throughout DeclaresRequired) :
    (ofProperties properties keys).Throughout DeclaresRequired := by
  have alternatives : (Json.array (keys.map fun key =>
      .object [("required", .strings [key])])).Throughout DeclaresRequired :=
    Json.throughout_array_iff.mpr (List.forall_mem_map.mpr fun key _ => alternative_declares key)
  refine Fields.throughout_of_unlisted rfl ?_
  simpa using ⟨Fields.throughout_text "object", declares, alternatives⟩

theorem Offers.throughout {P : Fields → Prop} {v : Json} {first : String × Json}
    (offers : Offers v first) (holds : v.Throughout P) : first.2.Throughout P := by
  obtain ⟨rest, member⟩ := offers
  have inner := holds.inside (Json.contains_of_member? member)
  exact (Json.throughout_object_iff.mp inner).2 first List.mem_cons_self

/-- Each rule comes from a variant, so that only the rules as a whole may lack what they require. -/
theorem ruleSchema_declaresRequired (declares : spec.Throughout DeclaresRequired)
    (built : ruleSchema spec = .ok rule)
    (whole : ∀ rules, rule.at? ["properties"] = some (.object rules) → DeclaresRequired rules) :
    rule.Throughout DeclaresRequired := by
  obtain ⟨variants, firsts, listed, each, rfl⟩ := ruleSchema_ok_iff.mp built
  have inside := Json.throughout_array_iff.mp (declares.inside (Json.contains_of_walk? listed))
  refine ofProperties_declares (Json.throughout_object_iff.mpr ⟨whole _ rfl, fun field member => ?_⟩)
  rcases Entries.mem_overlay member with none | first
  · cases none
  · obtain ⟨v, there, offers⟩ := exists_mem_of_forall₂ each.flip first
    exact Offers.throughout offers (inside v there)

/-- Rules of two names look like a schema that lacks what it requires. -/
example : ∃ rule, ruleSchema (specOf [variantOf [("properties", .object [])],
      variantOf [("required", .strings ["x"])]]) = .ok rule ∧ ¬ rule.Throughout DeclaresRequired := by
  refine ⟨_, rfl, fun declares => ?_⟩
  have clash : Fields.Requires [("properties", .object []), ("required", .strings ["x"])] [] "x" :=
    ⟨rfl, _, rfl, List.mem_cons_self⟩
  cases declares _ (.field (List.mem_cons_of_mem _ List.mem_cons_self) rfl .here) [] "x" clash

theorem overlay_lists_declares (declares : DeclaresRequired properties) (rule : Json) :
    DeclaresRequired (Entries.overlay properties (lists rule)) := by
  have same : ∀ key ∉ fields, (Entries.overlay properties (lists rule)).lookup key =
      properties.lookup key := by
    intro key apart
    rw [lookup_overlay_lists, if_neg apart]
  rintro inner name ⟨declared, items, listed, member⟩
  rw [same "properties" (by decide)] at declared
  rw [same "required" (by decide)] at listed
  exact declares inner name ⟨declared, items, listed, member⟩

theorem keys_subset_overlay_lists (properties : Fields) (rule : Json) :
    properties.map (·.1) ⊆ (Entries.overlay properties (lists rule)).map (·.1) := by
  have distinct : ((lists rule).map (·.1)).Nodup := by
    change fields.Nodup
    decide
  rw [Entries.keys_overlay properties distinct]
  exact List.subset_append_left _ _

theorem put_properties_declares {root upper : Fields} (declares : DeclaresRequired root)
    (held : root.lookup "properties" = some (.object properties))
    (more : properties.map (·.1) ⊆ upper.map (·.1)) :
    DeclaresRequired (Entries.put root "properties" (.object upper)) := by
  rintro inner name ⟨declared, items, listed, member⟩
  rw [Entries.lookup_put, if_pos rfl] at declared
  rw [Entries.lookup_put, if_neg (by decide)] at listed
  cases declared
  exact more (declares properties name ⟨held, items, listed, member⟩)

theorem at?_rulesPath (built : ruleSchema spec = .ok rule) (done : restructure spec = .ok after) :
    after.at? rulesPath = rule.at? ["properties"] := by
  have path : rulesPath = ["properties", "include"] ++ ["items", "properties"] := rfl
  rw [path, Json.at?_append, (restructured_of_ok built done).listed "include" (by decide)]
  rfl

theorem restructure_declaresRequired_iff (declares : spec.Throughout DeclaresRequired)
    (done : restructure spec = .ok after) :
    after.Throughout DeclaresRequired ↔
      ∀ rules, after.at? rulesPath = some (.object rules) → DeclaresRequired rules := by
  refine ⟨fun holds rules found => holds rules (Json.contains_of_at? found), fun whole => ?_⟩
  obtain ⟨rule, root, properties, built, rfl, held, rfl⟩ := restructure_ok_iff.mp done
  rw [at?_rulesPath built done] at whole
  have list := listOf_declares (ruleSchema_declaresRequired declares built whole)
  obtain ⟨here, below⟩ := Json.throughout_object_iff.mp declares
  obtain ⟨inner, values⟩ := Json.throughout_object_iff.mp (below _ (Entries.mem_of_lookup held))
  have merged :
      (Json.object (Entries.overlay properties (lists rule))).Throughout DeclaresRequired := by
    refine Json.throughout_object_iff.mpr ⟨overlay_lists_declares inner rule, fun field member => ?_⟩
    rcases Entries.mem_overlay member with old | new
    · exact values field old
    · obtain ⟨_, _, rfl⟩ := List.mem_map.mp new
      exact list
  have top := put_properties_declares here held (keys_subset_overlay_lists properties rule)
  refine Json.throughout_object_iff.mpr ⟨top, fun field member => ?_⟩
  rcases Entries.mem_put member with rfl | old
  · exact merged
  · exact below field old

end Rules

namespace ResourceKind

variable {kind : ResourceKind} {document spec : Json} {limit : Nat}

theorem specSchema_ok (built : kind.specSchema document limit = .ok spec) :
    ∃ schema r, kind.sourceSchema document = .ok schema ∧
      Schema.resolve document limit (.object (seeded schema)) = .ok r ∧
      (if kind = accessGroup then Rules.restructure r else .ok r) = .ok spec := by
  unfold specSchema resolved at built
  split at built
  · cases built
  · rename_i r done
    split at done
    · cases done
    · rename_i schema source
      split at done
      · cases done
      · rename_i run
        cases done
        exact ⟨schema, r, source, run, built⟩

/-- The schema of a kind declares what it requires exactly if its body unfolds to objects that do so.
With rules, their whole counts too. -/
theorem specSchema_declares (built : kind.specSchema document limit = .ok spec) :
    ∃ schema, kind.sourceSchema document = .ok schema ∧
      (kind ≠ accessGroup → (spec.Throughout DeclaresRequired ↔
        Schema.RequiresKept document (.object (seeded schema)))) ∧
      (kind = accessGroup → Schema.RequiresKept document (.object (seeded schema)) →
        (spec.Throughout DeclaresRequired ↔
          ∀ rules, spec.at? Rules.rulesPath = some (.object rules) → DeclaresRequired rules)) := by
  obtain ⟨schema, r, source, run, last⟩ := specSchema_ok built
  have exactly := (Schema.means_of_resolveValue run).declaresRequired_iff
  refine ⟨schema, source, fun other => ?_, fun isGroup keeps => ?_⟩
  · rw [if_neg other] at last
    cases last
    exact exactly
  · rw [if_pos isGroup] at last
    exact Rules.restructure_declaresRequired_iff (exactly.mpr keeps) last

end ResourceKind

/-- A schema without references that declares what it requires is resolved to one that does, exactly
if no object in it requires a property whose name never survives; what stands below such a name does
not count. The schema of a generated definition declares what it requires exactly if every object that
its body unfolds to requires only properties that are declared behind the references and survive. For
an access group whose body does so, it is left to the rules: one called `required` may list what one
called `properties` does not declare. -/
theorem generated_declaresRequired (document : Json) (limit : Nat) :
    (∀ node r, Schema.ReferenceFree node → node.Throughout DeclaresRequired →
      Schema.resolve document limit node = .ok r →
      (r.Throughout DeclaresRequired ↔
        ∀ fields, node.Contains Schema.survives (.object fields) →
          ∀ properties name, Fields.Requires fields properties name →
            Keyword.isStripped name = false)) ∧
    ∀ list, Manifest.generate document limit = .ok list →
      List.Forall₂ (fun (kind : ResourceKind) crd => ∃ schema spec,
          kind.sourceSchema document = .ok schema ∧ crd.at? Envelope.slot = some spec ∧
          (kind ≠ .accessGroup → (spec.Throughout DeclaresRequired ↔
            Schema.RequiresKept document (.object (ResourceKind.seeded schema)))) ∧
          (kind = .accessGroup →
            Schema.RequiresKept document (.object (ResourceKind.seeded schema)) →
            (spec.Throughout DeclaresRequired ↔
              ∀ rules, spec.at? Rules.rulesPath = some (.object rules) → DeclaresRequired rules)))
        [.accessGroup, .tunnel, .tunnelConfig] list.items := by
  refine ⟨fun node r free declares resolved => ?_, fun list generated => ?_⟩
  · exact Schema.resolve_declaresRequired_iff free declares resolved
  · obtain ⟨_, each⟩ := Manifest.generate_ok_iff.mp generated
    refine each.imp fun kind crd defined => ?_
    obtain ⟨spec, built, rfl⟩ := ResourceKind.definition_ok_iff.mp defined
    obtain ⟨schema, source, others, group⟩ := ResourceKind.specSchema_declares built
    exact ⟨schema, spec, source, Envelope.at?_embed kind.names spec, others, group⟩

def emailRule : Fields :=
  [("include", .object [("items", .object [("oneOf",
    .array [Rules.variantOf [("email", .null)]])])])]

def requiringDocument : Json :=
  .object [("paths", .object [
    requestOf .accessGroup (.object [("required", .strings ["include"]),
      ("properties", .object emailRule)]),
    requestOf .tunnel (.object []),
    requestOf .tunnelConfig Schema.titledNode])]

theorem emailRule_declares : (Json.object emailRule).Throughout DeclaresRequired := by
  have null : Json.null.Throughout DeclaresRequired := Json.throughout_scalar ⟨rfl, rfl⟩
  have email : (Json.object [("email", .null)]).Throughout DeclaresRequired :=
    Fields.throughout_of_unlisted rfl (by simp [null])
  have variant : (Rules.variantOf [("email", .null)]).Throughout DeclaresRequired :=
    Fields.throughout_of_unlisted rfl (by simp [email])
  have items : (Json.object [("oneOf", .array [Rules.variantOf [("email", .null)]])]).Throughout
      DeclaresRequired :=
    Fields.throughout_of_unlisted rfl (by simp [Json.throughout_array_iff, variant])
  have list : (Json.object [("items", .object [("oneOf",
      .array [Rules.variantOf [("email", .null)]])])]).Throughout DeclaresRequired :=
    Fields.throughout_of_unlisted rfl (by simp [items])
  exact Fields.throughout_of_unlisted rfl (by simp [emailRule, list])

theorem accessGroup_requiresKept : Schema.RequiresKept requiringDocument (.object
    [("type", .string "object"), ("required", .strings ["include"]),
      ("properties", .object emailRule)]) := by
  have run : Schema.resolve requiringDocument 9 (.object [("type", .string "object"),
      ("required", .strings ["include"]), ("properties", .object emailRule)]) =
        .ok (.object [("type", .string "object"), ("required", .strings ["include"]),
          ("properties", .object emailRule)]) := rfl
  refine (Schema.means_of_resolveValue run).declaresRequired_iff.mp ?_
  refine Json.throughout_object_iff.mpr ⟨?_, ?_⟩
  · exact (Fields.declaresRequired_iff_of_lookup rfl rfl).mpr (by simp [emailRule])
  · simp [Fields.throughout_text, Fields.throughout_strings, emailRule_declares]

theorem requiringDocument_declares :
    ¬ Schema.untitledNode.Throughout DeclaresRequired ∧
    ∃ list group config, Manifest.generate requiringDocument 9 = .ok list ∧
      list.items[0]?.bind (·.at? Envelope.slot) = some group ∧
      list.items[2]?.bind (·.at? Envelope.slot) = some config ∧
      group.Throughout DeclaresRequired ∧ ¬ config.Throughout DeclaresRequired := by
  have stripped : Keyword.isStripped "title" ≠ false := by decide
  constructor
  · obtain ⟨resolved, _⟩ := generated_declaresRequired .null 64
    have exactly := resolved Schema.titledNode Schema.untitledNode
      (fun x written => Schema.titledNode_unreferring x written.anywhere)
      Schema.titledNode_declares rfl
    intro declares
    exact stripped (exactly.mp declares _ .here _ "title" ⟨rfl, _, rfl, List.mem_cons_self⟩)
  · obtain ⟨_, generated⟩ := generated_declaresRequired requiringDocument 9
    obtain ⟨⟨_, group, source, slotted, _, rules⟩, rest⟩ := List.forall₂_cons.mp (generated _ rfl)
    obtain ⟨_, rest⟩ := List.forall₂_cons.mp rest
    obtain ⟨⟨_, config, source', slotted', exactly, _⟩, _⟩ := List.forall₂_cons.mp rest
    refine ⟨_, group, config, rfl, slotted, slotted', ?_, fun declares => ?_⟩
    · cases source
      refine (rules rfl accessGroup_requiresKept).mpr fun email found => ?_
      cases slotted
      cases found
      exact Fields.declaresRequired_of_unlisted rfl
    · cases source'
      have keeps := (exactly (by decide)).mp declares [] _ .here rfl _ "title"
        ⟨rfl, _, rfl, List.mem_cons_self⟩ [] _ (.done rfl)
      exact stripped (Schema.mem_keys_kept.mp keeps).2

end OperatorKit
