import OperatorKit.Crd.Manifest
import OperatorKit.Proofs.Schema.Clean

/-!
Everything that is generated is clean: the schema of each definition, also that of access groups,
whose rules are put together anew from the variants after the schema has been resolved.
-/

namespace OperatorKit

namespace Json

theorem contains_of_child? {v w : Json} {token : String} (found : v.child? token = some w) :
    v.Contains everyKey w := by
  cases v with
  | object fields => exact .field (Entries.mem_of_lookup found) rfl .here
  | array vs =>
    obtain ⟨i, _, item⟩ := Option.bind_eq_some_iff.mp found
    exact .item (List.mem_of_getElem? item) .here
  | _ => cases found

theorem contains_of_at? {v w : Json} {path : List String} (found : v.at? path = some w) :
    v.Contains everyKey w := by
  induction path generalizing v with
  | nil => exact Option.some.inj found ▸ .here
  | cons token rest ih =>
    obtain ⟨child, first, later⟩ := Option.bind_eq_some_iff.mp found
    exact (contains_of_child? first).trans (ih later)

theorem eq_array_of_items? {v : Json} {vs : List Json} (found : v.items? = some vs) :
    v = .array vs := by
  cases v with
  | array items => cases found; rfl
  | _ => cases found

theorem eq_object_of_fields? {v : Json} {fields : Fields} (found : v.fields? = some fields) :
    v = .object fields := by
  cases v with
  | object fields' => cases found; rfl
  | _ => cases found

theorem clean_nil : Clean (.object []) :=
  clean_object_iff.mpr (List.forall_mem_nil _)

theorem Clean.cons {fields : Fields} {key : String} {v : Json} (rest : Clean (.object fields))
    (plain : Keyword.Plain key) (value : v.Clean) : Clean (.object ((key, v) :: fields)) :=
  clean_object_iff.mpr (List.forall_mem_cons.mpr ⟨⟨plain, value⟩, clean_object_iff.mp rest⟩)

theorem Clean.put {fields : Fields} {key : String} {v : Json} (clean : Clean (.object fields))
    (plain : Keyword.Plain key) (value : v.Clean) : Clean (.object (Entries.put fields key v)) := by
  refine clean_object_iff.mpr fun field member => ?_
  rcases Entries.mem_put member with rfl | old
  · exact ⟨plain, value⟩
  · exact clean_object_iff.mp clean field old

theorem clean_strings (texts : List String) : (strings texts).Clean := by
  refine clean_array_iff.mpr fun v member => ?_
  obtain ⟨text, _, rfl⟩ := List.mem_map.mp member
  exact clean_scalar ⟨rfl, rfl⟩

end Json

namespace Rules

open Json

theorem variant_clean {v schema : Json} {key : String} (clean : v.Clean)
    (found : variant? v = some (key, schema)) : Keyword.Plain key ∧ schema.Clean := by
  obtain ⟨fields, properties, first⟩ := Option.bind_eq_some_iff.mp found
  obtain ⟨w, member, isObject⟩ := Option.bind_eq_some_iff.mp properties
  cases eq_object_of_fields? isObject
  have inner := clean.inside (contains_of_member? member)
  exact clean_object_iff.mp inner _ (List.mem_of_head? first)

theorem gather_clean {index : Nat} {properties : Fields} {keys : List String}
    {variants : List Json} {result : Fields × List String} (clean : Clean (.object properties))
    (each : ∀ v ∈ variants, v.Clean)
    (done : gather index properties keys variants = .ok result) : Clean (.object result.1) := by
  induction variants generalizing index properties keys with
  | nil =>
    cases done
    exact clean
  | cons v rest ih =>
    unfold gather at done
    split at done
    · cases done
    · rename_i key schema found
      obtain ⟨plain, value⟩ := variant_clean (each v List.mem_cons_self) found
      exact ih (clean.put plain value) (fun w member => each w (List.mem_cons_of_mem _ member)) done

theorem ofProperties_clean {properties : Fields} (clean : Clean (.object properties))
    (keys : List String) : (ofProperties properties keys).Clean := by
  have required : Clean (.array (keys.map fun key => .object [("required", strings [key])])) := by
    refine clean_array_iff.mpr fun v member => ?_
    obtain ⟨key, _, rfl⟩ := List.mem_map.mp member
    exact clean_nil.cons (by decide) (clean_strings _)
  exact ((clean_nil.cons (by decide) required).cons (by decide) clean).cons (by decide)
    (clean_scalar ⟨rfl, rfl⟩)

theorem listOf_clean {rule : Json} (clean : rule.Clean) : (listOf rule).Clean :=
  (clean_nil.cons (by decide) clean).cons (by decide) (clean_scalar ⟨rfl, rfl⟩)

theorem ruleSchema_clean {spec rule : Json} (clean : spec.Clean) (built : ruleSchema spec = .ok rule) :
    rule.Clean := by
  unfold ruleSchema at built
  split at built
  · cases built
  · rename_i variants found
    obtain ⟨w, at_, isArray⟩ := Option.bind_eq_some_iff.mp found
    cases eq_array_of_items? isArray
    obtain ⟨⟨properties, keys⟩, gathered, rfl⟩ := ok_of_map built
    have each := clean_array_iff.mp (clean.inside (contains_of_at? at_))
    exact ofProperties_clean (gather_clean clean_nil each gathered) keys

theorem restructure_clean {spec spec' : Json} (clean : spec.Clean)
    (done : restructure spec = .ok spec') : spec'.Clean := by
  unfold restructure at done
  split at done
  · cases done
  · rename_i rule built
    have list := listOf_clean (ruleSchema_clean clean built)
    split at done
    · cases done
    · rename_i properties found
      obtain ⟨w, member, isObject⟩ := Option.bind_eq_some_iff.mp found
      cases eq_object_of_fields? isObject
      obtain ⟨outer, isSpec, at_⟩ := Option.bind_eq_some_iff.mp member
      cases eq_object_of_fields? isSpec
      have inner := clean.inside (contains_of_member? member)
      simp only [setChild, at_, Option.isSome_some, if_true, Except.ok.injEq] at done
      rw [← done]
      refine clean.put (by decide) ?_
      exact ((inner.put (by decide) list).put (by decide) list).put (by decide) list

end Rules

theorem Envelope.at?_embed (names : ResourceNames) (schema : Json) :
    (embed (build names) schema).at? slot = some schema := rfl

theorem ResourceKind.specSchema_clean {kind : ResourceKind} {document spec : Json} {limit : Nat}
    (built : kind.specSchema document limit = .ok spec) : spec.Clean := by
  unfold specSchema resolved at built
  split at built
  · cases built
  · rename_i plain done
    split at done
    · cases done
    · split at done
      · cases done
      · rename_i resolved
        cases done
        have clean := (Schema.means_of_resolveValue resolved).clean
        split at built
        · exact Rules.restructure_clean clean built
        · cases built
          exact clean

theorem Manifest.definition_of_generate {document crd : Json} {limit : Nat} {list : ObjectList}
    (generated : generate document limit = .ok list) (member : crd ∈ list.items) :
    ∃ kind : ResourceKind, kind.definition document limit = .ok crd := by
  obtain ⟨items, each, rfl⟩ := ok_of_map generated
  exact exists_of_forall₂ (mapM_ok_iff.mp each).flip member

/-- Neither a resolved schema nor the schema of a generated definition has a reference, a
documentation field or an extension in it, at any depth. -/
theorem output_clean (document : Json) (limit : Nat) :
    (∀ node r, Schema.resolve document limit node = .ok r → r.Clean) ∧
    ∀ list, Manifest.generate document limit = .ok list →
      ∀ crd ∈ list.items, ∃ spec, crd.at? Envelope.slot = some spec ∧ spec.Clean := by
  constructor
  · intro node r resolved
    exact (Schema.means_of_resolveValue resolved).clean
  · intro list generated crd member
    obtain ⟨kind, defined⟩ := Manifest.definition_of_generate generated member
    obtain ⟨spec, built, rfl⟩ := ok_of_map defined
    exact ⟨spec, Envelope.at?_embed kind.names spec, ResourceKind.specSchema_clean built⟩

/-- The part of a document that gives the schema of a kind. -/
def requestOf (kind : ResourceKind) (schema : Json) : String × Json :=
  (kind.route, .object [(kind.method.key, .object [("requestBody", .object [("content",
    .object [("application/json", .object [("schema", schema)])])])])])

def smallDocument : Json :=
  .object [
    ("paths", .object [
      requestOf .accessGroup (.object [("properties", .object [("include", .object [("items",
        .object [("oneOf", .array [.object [(Keyword.reference, .string "#/rule")]])])])])]),
      requestOf .tunnel (.object [(Keyword.reference, .string "#/name")]),
      requestOf .tunnelConfig (.object [(Keyword.reference, .string "#/name")])]),
    ("rule", .object [("title", .string "Rule"), ("properties", .object [
      ("email", .object [(Keyword.reference, .string "#/name")])])]),
    ("name", .object [("type", .string "string"), ("x-order", .null), ("readOnly", .bool true)])]

theorem smallDocument_clean :
    (∃ r, Schema.resolve smallDocument 9 (.object [(Keyword.reference, .string "#/rule")]) = .ok r ∧
      r.Clean) ∧
    ∃ list crd spec, Manifest.generate smallDocument 9 = .ok list ∧ crd ∈ list.items ∧
      crd.at? Envelope.slot = some spec ∧ spec.Clean := by
  obtain ⟨resolved, generated⟩ := output_clean smallDocument 9
  refine ⟨⟨_, rfl, resolved (.object [(Keyword.reference, .string "#/rule")]) _ rfl⟩, ?_⟩
  obtain ⟨spec, found, clean⟩ := generated _ rfl _ (.head _)
  exact ⟨_, _, spec, rfl, .head _, found, clean⟩

end OperatorKit
