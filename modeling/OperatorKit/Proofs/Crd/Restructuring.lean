import Mathlib.Logic.Function.Iterate
import OperatorKit.Proofs.Crd.Union

/-!
Giving the rules their schema, as a change in place. The change fails exactly if there is no schema
of a rule, and before anything is written. Otherwise it writes three lists among the properties and
leaves all else as it was. A second change finds the alternatives where it looks for variants, so
that it writes nothing new.
-/

namespace OperatorKit

namespace Rules

variable {spec after rule : Json} {root properties : Fields} {e : CrdError}

def lists (rule : Json) : Fields :=
  fields.map fun field => (field, listOf rule)

theorem exists_properties (built : ruleSchema spec = .ok rule) : ∃ root properties,
    spec = .object root ∧ root.lookup "properties" = some (.object properties) := by
  obtain ⟨variants, _, found, _⟩ := ruleSchema_ok_iff.mp built
  obtain ⟨inner, member, later⟩ := Option.bind_eq_some_iff.mp found
  obtain ⟨root, isObject, held⟩ := Option.bind_eq_some_iff.mp member
  obtain ⟨_, again, _⟩ := Option.bind_eq_some_iff.mp later
  obtain ⟨properties, inside, _⟩ := Option.bind_eq_some_iff.mp again
  cases Json.eq_object_of_fields? isObject
  cases Json.eq_object_of_fields? inside
  exact ⟨root, properties, rfl, held⟩

theorem properties_eq (held : root.lookup "properties" = some (.object properties)) :
    ((Json.object root).member? "properties").bind Json.fields? = some properties := by
  rw [Json.member?, Json.fields?, Option.bind_some, held]
  rfl

theorem setChild_properties (held : root.lookup "properties" = some (.object properties))
    (v : Json) : (Json.object root).setChild "properties" v =
      .object (Entries.put root "properties" v) := by
  rw [Json.setChild, held]
  rfl

theorem restructure_of_ruleSchema (built : ruleSchema (.object root) = .ok rule)
    (held : root.lookup "properties" = some (.object properties)) :
    restructure (.object root) = .ok (.object
      (Entries.put root "properties" (.object (Entries.overlay properties (lists rule))))) := by
  rw [restructure, built]
  dsimp only
  rw [properties_eq held]
  dsimp only
  rw [setChild_properties held, Entries.overlay, lists, List.foldl_map]

theorem restructure_ok_iff : restructure spec = .ok after ↔
    ∃ rule root properties, ruleSchema spec = .ok rule ∧ spec = .object root ∧
      root.lookup "properties" = some (.object properties) ∧
      after = .object
        (Entries.put root "properties" (.object (Entries.overlay properties (lists rule)))) := by
  constructor
  · intro done
    cases built : ruleSchema spec with
    | error e =>
      rw [restructure, built] at done
      cases done
    | ok rule =>
      obtain ⟨root, properties, rfl, held⟩ := exists_properties built
      rw [restructure_of_ruleSchema built held] at done
      cases done
      exact ⟨rule, root, properties, rfl, rfl, held, rfl⟩
  · rintro ⟨rule, root, properties, built, rfl, held, rfl⟩
    exact restructure_of_ruleSchema built held

theorem restructure_error_iff : restructure spec = .error e ↔ ruleSchema spec = .error e := by
  cases built : ruleSchema spec with
  | error e' =>
    rw [restructure, built]
  | ok rule =>
    obtain ⟨root, properties, rfl, held⟩ := exists_properties built
    rw [restructure_of_ruleSchema built held]
    constructor
    · intro impossible
      cases impossible
    · intro impossible
      cases impossible

section InPlace

theorem putList_object (held : root.lookup "properties" = some (.object properties))
    (rule : Json) (field : String) : putList rule (.object root) field = .object
      (Entries.put root "properties" (.object (Entries.put properties field (listOf rule)))) := by
  rw [putList, properties_eq held]
  exact setChild_properties held _

theorem foldl_putList (held : root.lookup "properties" = some (.object properties))
    (rule : Json) (names : List String) : names.foldl (putList rule) (.object root) = .object
      (Entries.put root "properties" (.object (Entries.overlay properties
        (names.map fun field => (field, listOf rule))))) := by
  induction names generalizing root properties with
  | nil => exact congrArg Json.object (Entries.put_of_lookup held).symm
  | cons field rest ih =>
    have next : (Entries.put root "properties"
        (.object (Entries.put properties field (listOf rule)))).lookup "properties" =
          some (.object (Entries.put properties field (listOf rule))) := by
      rw [Entries.lookup_put, if_pos rfl]
    rw [List.foldl_cons, putList_object held, ih next, Entries.put_put]
    rfl

theorem run_putLists (rule spec : Json) (names : List String) :
    EStateM.run (names.forM fun field => modify (putList rule · field)) spec =
      (.ok () (names.foldl (putList rule) spec) : EStateM.Result CrdError Json Unit) := by
  induction names generalizing spec with
  | nil => rfl
  | cons field rest ih => exact ih (putList rule spec field)

theorem run_of_error (failed : ruleSchema spec = .error e) :
    restructureInPlace.run spec = .error e spec := by
  simp [restructureInPlace, failed]

theorem run_of_ok (done : restructure spec = .ok after) :
    restructureInPlace.run spec = .ok () after := by
  obtain ⟨rule, root, properties, built, rfl, held, rfl⟩ := restructure_ok_iff.mp done
  rw [lists, ← foldl_putList held, ← run_putLists]
  simp [restructureInPlace, built, properties_eq held]

theorem run_ok_iff : restructureInPlace.run spec = .ok () after ↔ restructure spec = .ok after := by
  constructor
  · intro ran
    cases done : restructure spec with
    | error e =>
      have failed := restructure_error_iff.mp done
      cases ran.symm.trans (run_of_error failed)
    | ok after' =>
      cases ran.symm.trans (run_of_ok done)
      rfl
  · exact run_of_ok

theorem run_error_iff : restructureInPlace.run spec = .error e after ↔
    ruleSchema spec = .error e ∧ after = spec := by
  constructor
  · intro ran
    cases done : restructure spec with
    | error e' =>
      have failed := restructure_error_iff.mp done
      cases ran.symm.trans (run_of_error failed)
      exact ⟨failed, rfl⟩
    | ok after' => cases ran.symm.trans (run_of_ok done)
  · rintro ⟨failed, rfl⟩
    exact run_of_error failed

/-- That there are no properties is never found out after that there are variants. -/
theorem ruleSchema_ne_expected_object :
    ruleSchema spec ≠ .error (mismatch "/properties" "expected an object") := by
  intro failed
  rcases ruleSchema_error_iff.mp failed with ⟨_, same⟩ | ⟨_, _, _, _, _, _, same⟩
  · exact absurd (CrdError.shapeMismatch.inj same).2.2 (by decide)
  · exact absurd (CrdError.shapeMismatch.inj same).2.2 (by decide)

/-- The schema that a change leaves behind, whether or not it fails. -/
def left (spec : Json) : Json :=
  match restructureInPlace.run spec with
  | .ok _ after | .error _ after => after

end InPlace

section Frame

/-- The three lists have the schema of a rule. All that does not lie in them is as before, and of
the keys only the lists' own may be new. -/
structure Restructured (spec rule after : Json) : Prop where
  listed : ∀ field ∈ fields,
    after.at? ["properties", field] = some (.object [("type", .string "array"), ("items", rule)])
  beside : ∀ path, (∀ field ∈ fields, Json.Apart ["properties", field] path) →
    after.at? path = spec.at? path
  ordered : ∃ root root' properties properties', spec = .object root ∧ after = .object root' ∧
    root'.map (·.1) = root.map (·.1) ∧
    root.lookup "properties" = some (.object properties) ∧
    root'.lookup "properties" = some (.object properties') ∧
    properties'.map (·.1) =
      properties.map (·.1) ++ fields.filter (· ∉ properties.map (·.1))

theorem lookup_lists (rule : Json) (key : String) : (lists rule).reverse.lookup key =
    if key ∈ fields then some (listOf rule) else none := by
  have written : (lists rule).reverse = [("require", listOf rule), ("exclude", listOf rule),
    ("include", listOf rule)] := rfl
  have named : key ∈ fields ↔ key = "include" ∨ key = "exclude" ∨ key = "require" := by
    simp [fields]
  rw [written]
  simp only [Entries.lookup_cons, named, List.lookup_nil]
  split
  · simp [*]
  · split
    · simp [*]
    · split <;> simp [*]

theorem lookup_overlay_lists (properties : Fields) (rule : Json) (key : String) :
    (Entries.overlay properties (lists rule)).lookup key =
      if key ∈ fields then some (listOf rule) else properties.lookup key := by
  rw [Entries.lookup_overlay, lookup_lists]
  split <;> rfl

theorem at?_beside (held : root.lookup "properties" = some (.object properties)) (rule : Json)
    {path : List String} (apart : ∀ field ∈ fields, Json.Apart ["properties", field] path) :
    (Json.object (Entries.put root "properties" (.object (Entries.overlay properties
      (lists rule))))).at? path = (Json.object root).at? path := by
  have among : "include" ∈ fields := List.mem_cons_self
  cases path with
  | nil => exact absurd List.nil_prefix (apart "include" among).2
  | cons key rest =>
    by_cases here : key = "properties"
    · subst here
      cases rest with
      | nil =>
        have above : ["properties"] <+: ["properties", "include"] := ⟨["include"], rfl⟩
        exact absurd above (apart "include" among).2
      | cons field rest =>
        have other : field ∉ fields := by
          intro member
          exact (apart field member).1 ⟨rest, rfl⟩
        simp only [Json.at?, Json.child?, Entries.lookup_put, if_true, Option.bind_some, held,
          lookup_overlay_lists, if_neg other]
    · simp only [Json.at?, Json.child?, Entries.lookup_put, if_neg here]

theorem restructured_of_ok (built : ruleSchema spec = .ok rule)
    (done : restructure spec = .ok after) : Restructured spec rule after := by
  obtain ⟨rule, root, properties, again, rfl, held, rfl⟩ := restructure_ok_iff.mp done
  cases built.symm.trans again
  have present : "properties" ∈ root.map (·.1) := by
    rw [← Entries.lookup_isSome_iff, held]
    rfl
  have names : (lists rule).map (·.1) = fields := rfl
  have distinct : ((lists rule).map (·.1)).Nodup := by
    rw [names]
    decide
  constructor
  · intro field member
    simp only [Json.at?, Json.child?, Entries.lookup_put, if_true, Option.bind_some,
      lookup_overlay_lists, if_pos member]
    rfl
  · intro path apart
    exact at?_beside held rule apart
  · refine ⟨root, Entries.put root "properties" (.object (Entries.overlay properties (lists rule))),
      properties, Entries.overlay properties (lists rule), rfl, rfl, ?_, held, ?_, ?_⟩
    · rw [Entries.keys_put, if_pos present]
    · rw [Entries.lookup_put, if_pos rfl]
    · rw [Entries.keys_overlay properties distinct, names]

end Frame

section Again

variable {v : Json} {variants : List Json}

theorem Restructured.walk {keys : List String}
    (restructured : Restructured spec (ofProperties properties keys) after) :
    after.walk? variantsPath =
      some (.array (keys.map fun key => .object [("required", .strings [key])])) := by
  have names : ∀ token ∈ variantsPath, Json.index? token = none := by decide
  have path : variantsPath = ["properties", "include"] ++ ["items", "oneOf"] := rfl
  rw [← Json.at?_eq_walk? names, path, Json.at?_append,
    restructured.listed "include" (by decide)]
  rfl

theorem overlay_lists_again (properties : Fields) (rule : Json) :
    Entries.overlay (Entries.overlay properties (lists rule)) (lists rule) =
      Entries.overlay properties (lists rule) := by
  apply Entries.overlay_of_lookup
  intro field member
  obtain ⟨name, listed, rfl⟩ := List.mem_map.mp member
  rw [lookup_overlay_lists, if_pos listed]

/-- A change that finds the same rule again changes nothing. -/
theorem restructure_again (done : restructure spec = .ok after)
    (again : ruleSchema after = ruleSchema spec) : restructure after = .ok after := by
  obtain ⟨rule, root, properties, built, rfl, held, rfl⟩ := restructure_ok_iff.mp done
  have written : (Entries.put root "properties" (.object (Entries.overlay properties
      (lists rule)))).lookup "properties" =
        some (.object (Entries.overlay properties (lists rule))) := by
    rw [Entries.lookup_put, if_pos rfl]
  rw [restructure_of_ruleSchema (again.trans built) written, Entries.put_put, overlay_lists_again]

theorem ruleSchema_again_nil (done : restructure spec = .ok after)
    (empty : spec.walk? variantsPath = some (.array [])) : ruleSchema after = ruleSchema spec := by
  obtain ⟨rule, root, properties, built, _⟩ := restructure_ok_iff.mp done
  have restructured := restructured_of_ok built done
  obtain ⟨variants, firsts, listed, each, rfl⟩ := ruleSchema_ok_iff.mp built
  cases empty.symm.trans listed
  cases each
  rw [built]
  exact ruleSchema_ok_iff.mpr ⟨[], [], restructured.walk, .nil, rfl⟩

theorem ruleSchema_again_cons (done : restructure spec = .ok after)
    (some : spec.walk? variantsPath = some (.array (v :: variants))) :
    ruleSchema after = .error (mismatch (variantsPointer ++ "/" ++ Digits.decimal 0 ++
      "/properties") "rule variant has no properties") := by
  obtain ⟨rule, root, properties, built, _⟩ := restructure_ok_iff.mp done
  have restructured := restructured_of_ok built done
  obtain ⟨others, firsts, listed, each, rfl⟩ := ruleSchema_ok_iff.mp built
  cases some.symm.trans listed
  cases each with
  | cons =>
    have alternatives := restructured.walk
    rw [Entries.keys_ofList, List.map_cons, List.eraseDups_cons, List.map_cons] at alternatives
    apply ruleSchema_error_iff.mpr
    refine Or.inr ⟨[], _, _, alternatives, List.forall_mem_nil _, ?_, rfl⟩
    rintro first ⟨rest, member⟩
    cases member

theorem run_again (done : restructure spec = .ok after)
    (listed : spec.walk? variantsPath = some (.array variants)) : restructureInPlace.run after =
      if variants.isEmpty then .ok () after
      else .error (mismatch (variantsPointer ++ "/" ++ Digits.decimal 0 ++ "/properties")
        "rule variant has no properties") after := by
  cases variants with
  | nil => exact run_of_ok (restructure_again done (ruleSchema_again_nil done listed))
  | cons v rest => exact run_of_error (ruleSchema_again_cons done listed)

theorem left_again (done : restructure spec = .ok after)
    (listed : spec.walk? variantsPath = some (.array variants)) : left after = after := by
  rw [left, run_again done listed]
  cases variants <;> rfl

/-- A change fails if and only if there is no schema of a rule, with the same error and with
nothing written; that there are no properties is never the error. Otherwise it is the restructuring,
the three lists have the schema of a rule, and nothing else is written. Any number of further
changes leave behind what the first did: they find the same rule if there are no variants, and else
fail at the first alternative. -/
theorem restructureInPlace_atomic (spec : Json) :
    (∀ e after, restructureInPlace.run spec = .error e after ↔
      ruleSchema spec = .error e ∧ after = spec) ∧
    (∀ after, restructureInPlace.run spec ≠
      .error (mismatch "/properties" "expected an object") after) ∧
    (∀ e, restructure spec = .error e ↔ ruleSchema spec = .error e) ∧
    (∀ after, restructureInPlace.run spec = .ok () after ↔ restructure spec = .ok after) ∧
    ∀ rule, ruleSchema spec = .ok rule → ∃ after variants,
      restructureInPlace.run spec = .ok () after ∧
      Restructured spec rule after ∧
      spec.walk? variantsPath = some (.array variants) ∧
      ∀ n, restructureInPlace.run (left^[n] after) =
        if variants.isEmpty then .ok () after
        else .error (mismatch (variantsPointer ++ "/" ++ Digits.decimal 0 ++ "/properties")
          "rule variant has no properties") after := by
  refine ⟨fun e after => run_error_iff, ?_, fun e => restructure_error_iff,
    fun after => run_ok_iff, ?_⟩
  · intro after failed
    obtain ⟨unbuilt, _⟩ := run_error_iff.mp failed
    exact ruleSchema_ne_expected_object unbuilt
  · intro rule built
    obtain ⟨variants, _, listed, _⟩ := ruleSchema_ok_iff.mp built
    obtain ⟨root, properties, rfl, held⟩ := exists_properties built
    have done := restructure_of_ruleSchema built held
    refine ⟨_, variants, run_of_ok done, restructured_of_ok built done, listed, ?_⟩
    intro n
    rw [Function.iterate_fixed (left_again done listed)]
    exact run_again done listed

theorem exclude_written_once :
    (∃ after, restructureInPlace.run (specOf [variantOf [("a", .null)]]) = .ok () after ∧
      after.at? ["properties", "exclude"] = some (listOf (ofProperties [("a", .null)] ["a"])) ∧
      restructureInPlace.run (left after) = .error (mismatch
        "/properties/include/items/oneOf/0/properties" "rule variant has no properties") after) ∧
    ∃ after, restructureInPlace.run (specOf []) = .ok () after ∧
      after.at? ["properties", "require"] = some (listOf (ofProperties [] [])) ∧
      restructureInPlace.run (left after) = .ok () after := by
  constructor
  · obtain ⟨_, _, _, _, changed⟩ := restructureInPlace_atomic (specOf [variantOf [("a", .null)]])
    obtain ⟨after, variants, done, restructured, listed, again⟩ :=
      changed (ofProperties [("a", .null)] ["a"]) rfl
    cases listed
    exact ⟨after, done, restructured.listed "exclude" (by decide), again 1⟩
  · obtain ⟨_, _, _, _, changed⟩ := restructureInPlace_atomic (specOf [])
    obtain ⟨after, variants, done, restructured, listed, again⟩ :=
      changed (ofProperties [] []) rfl
    cases listed
    exact ⟨after, done, restructured.listed "require" (by decide), again 1⟩

end Again

end Rules

end OperatorKit
