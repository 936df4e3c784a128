import Mathlib.Data.Finset.Card
import Mathlib.Data.List.Forall2
import OperatorKit.Proofs.Crd.Composition

/-!
The union of access rules. The keys of the variants become properties of one schema, each key once
and where it came first, and each is the only one that some alternative requires. So an object has
exactly one of the keys if and only if exactly one alternative holds of it. Of a variant with
several properties only the first is taken over.
-/

namespace OperatorKit

namespace Json

theorem child?_eq_member? {v : Json} {token : String} (name : index? token = none) :
    v.child? token = v.member? token := by
  cases v with
  | array items => simp [child?, name, member?, fields?]
  | _ => rfl

theorem at?_eq_walk? {v : Json} {path : List String}
    (names : ∀ token ∈ path, index? token = none) : v.at? path = v.walk? path := by
  induction path generalizing v with
  | nil => rfl
  | cons token rest ih =>
    obtain ⟨first, others⟩ := List.forall_mem_cons.mp names
    rw [at?, walk?, child?_eq_member? first]
    exact congrArg _ (funext fun _ => ih others)

end Json

namespace Rules

variable {spec rule v : Json} {first : String × Json} {index : Nat} {properties : Fields}
  {keys : List String} {variants : List Json} {e : CrdError}

/-- A variant whose properties begin with this one. -/
def Offers (v : Json) (first : String × Json) : Prop :=
  ∃ rest, v.member? "properties" = some (.object (first :: rest))

theorem variant?_eq_some_iff : variant? v = some first ↔ Offers v first := by
  unfold variant? Offers
  constructor
  · intro found
    obtain ⟨fields, isObject, head⟩ := Option.bind_eq_some_iff.mp found
    obtain ⟨w, member, inner⟩ := Option.bind_eq_some_iff.mp isObject
    cases Json.eq_object_of_fields? inner
    obtain ⟨rest, rfl⟩ := List.head?_eq_some_iff.mp head
    exact ⟨rest, member⟩
  · rintro ⟨rest, member⟩
    rw [member]
    rfl

theorem variant?_eq_none_iff : variant? v = none ↔ ∀ first, ¬ Offers v first := by
  simp only [← variant?_eq_some_iff]
  exact Option.eq_none_iff_forall_ne_some

theorem variants_eq_some_iff : (spec.at? variantsPath).bind Json.items? = some variants ↔
    spec.walk? variantsPath = some (.array variants) := by
  have names : ∀ token ∈ variantsPath, Json.index? token = none := by decide
  rw [Json.at?_eq_walk? names, Option.bind_eq_some_iff]
  constructor
  · rintro ⟨w, found, isArray⟩
    cases Json.eq_array_of_items? isArray
    exact found
  · intro found
    exact ⟨_, found, rfl⟩

section Gathering

theorem keys_gathered (properties : Fields) (key : String) (schema : Json) :
    (if (properties.lookup key).isSome then properties.map (·.1)
      else properties.map (·.1) ++ [key]) = (Entries.put properties key schema).map (·.1) := by
  simp only [Entries.keys_put, Entries.lookup_isSome_iff]

/-- The keys are gathered in step with the properties: they are the keys of these at any time. -/
theorem gather_ok_iff {result : Fields × List String} :
    gather index properties (properties.map (·.1)) variants = .ok result ↔
      ∃ firsts, List.Forall₂ Offers variants firsts ∧ result =
        (Entries.overlay properties firsts, (Entries.overlay properties firsts).map (·.1)) := by
  induction variants generalizing index properties with
  | nil =>
    rw [gather]
    constructor
    · intro done
      cases done
      exact ⟨[], .nil, rfl⟩
    · rintro ⟨firsts, each, rfl⟩
      cases each
      rfl
  | cons v rest ih =>
    rw [gather]
    cases found : variant? v with
    | none =>
      have without := variant?_eq_none_iff.mp found
      constructor
      · intro done
        cases done
      · rintro ⟨firsts, each, _⟩
        cases each with
        | cons offers _ => exact absurd offers (without _)
    | some first =>
      obtain ⟨key, schema⟩ := first
      dsimp only
      rw [keys_gathered, ih]
      constructor
      · rintro ⟨firsts, each, same⟩
        exact ⟨(key, schema) :: firsts, .cons (variant?_eq_some_iff.mp found) each, same⟩
      · rintro ⟨firsts, each, same⟩
        cases each with
        | cons offers others =>
          cases found.symm.trans (variant?_eq_some_iff.mpr offers)
          exact ⟨_, others, same⟩

theorem gather_error_iff : gather index properties keys variants = .error e ↔
    ∃ before v after, variants = before ++ v :: after ∧ (∀ w ∈ before, ∃ first, Offers w first) ∧
      (∀ first, ¬ Offers v first) ∧
      e = mismatch (variantsPointer ++ "/" ++ Digits.decimal (index + before.length) ++
        "/properties") "rule variant has no properties" := by
  induction variants generalizing index properties keys with
  | nil =>
    constructor
    · intro failed
      cases failed
    · rintro ⟨before, v, after, split, _⟩
      cases before <;> cases split
  | cons v rest ih =>
    rw [gather]
    cases found : variant? v with
    | none =>
      have without := variant?_eq_none_iff.mp found
      constructor
      · intro failed
        cases failed
        exact ⟨[], v, rest, rfl, List.forall_mem_nil _, without, rfl⟩
      · rintro ⟨before, w, after, split, earlier, _, rfl⟩
        cases before with
        | nil => rfl
        | cons u before =>
          cases split
          obtain ⟨first, offers⟩ := earlier v List.mem_cons_self
          exact absurd offers (without first)
    | some first =>
      have offers := variant?_eq_some_iff.mp found
      dsimp only
      rw [ih]
      constructor
      · rintro ⟨before, w, after, rfl, earlier, without, rfl⟩
        refine ⟨v :: before, w, after, rfl, List.forall_mem_cons.mpr ⟨⟨first, offers⟩, earlier⟩,
          without, ?_⟩
        rw [List.length_cons, Nat.add_right_comm, Nat.add_assoc]
      · rintro ⟨before, w, after, split, earlier, without, rfl⟩
        cases before with
        | nil =>
          cases split
          exact absurd offers (without first)
        | cons u before =>
          cases split
          refine ⟨before, w, after, rfl, (List.forall_mem_cons.mp earlier).2, without, ?_⟩
          rw [List.length_cons, Nat.add_right_comm, Nat.add_assoc]

end Gathering

theorem ruleSchema_ok_iff : ruleSchema spec = .ok rule ↔
    ∃ variants firsts, spec.walk? variantsPath = some (.array variants) ∧
      List.Forall₂ Offers variants firsts ∧
      rule = ofProperties (Entries.ofList firsts) ((Entries.ofList firsts).map (·.1)) := by
  unfold ruleSchema
  cases found : (spec.at? variantsPath).bind Json.items? with
  | none =>
    constructor
    · intro built
      cases built
    · rintro ⟨variants, _, listed, _⟩
      cases found.symm.trans (variants_eq_some_iff.mpr listed)
  | some variants =>
    have listed := variants_eq_some_iff.mp found
    constructor
    · intro built
      obtain ⟨result, gathered, rfl⟩ := ok_of_map built
      obtain ⟨firsts, each, rfl⟩ := gather_ok_iff.mp gathered
      exact ⟨variants, firsts, listed, each, rfl⟩
    · rintro ⟨others, firsts, also, each, rfl⟩
      cases listed.symm.trans also
      exact congrArg (Except.map _) (gather_ok_iff.mpr ⟨firsts, each, rfl⟩)

theorem ruleSchema_error_iff : ruleSchema spec = .error e ↔
    (¬ ∃ variants, spec.walk? variantsPath = some (.array variants)) ∧
        e = mismatch variantsPointer "expected an array of rule variants" ∨
      ∃ before v after, spec.walk? variantsPath = some (.array (before ++ v :: after)) ∧
        (∀ w ∈ before, ∃ first, Offers w first) ∧ (∀ first, ¬ Offers v first) ∧
        e = mismatch (variantsPointer ++ "/" ++ Digits.decimal before.length ++ "/properties")
          "rule variant has no properties" := by
  unfold ruleSchema
  cases found : (spec.at? variantsPath).bind Json.items? with
  | none =>
    have unlisted : ¬ ∃ variants, spec.walk? variantsPath = some (.array variants) := by
      rintro ⟨variants, listed⟩
      cases found.symm.trans (variants_eq_some_iff.mpr listed)
    constructor
    · intro failed
      cases failed
      exact Or.inl ⟨unlisted, rfl⟩
    · rintro (⟨_, rfl⟩ | ⟨_, _, _, listed, _⟩)
      · rfl
      · exact absurd ⟨_, listed⟩ unlisted
  | some variants =>
    have listed := variants_eq_some_iff.mp found
    constructor
    · intro failed
      obtain ⟨before, v, after, rfl, earlier, without, rfl⟩ :=
        gather_error_iff.mp (error_of_map failed)
      rw [Nat.zero_add]
      exact Or.inr ⟨before, v, after, listed, earlier, without, rfl⟩
    · rintro (⟨unlisted, _⟩ | ⟨before, v, after, also, earlier, without, rfl⟩)
      · exact absurd ⟨variants, listed⟩ unlisted
      · cases listed.symm.trans also
        rw [← Nat.zero_add before.length]
        exact congrArg (Except.map _)
          (gather_error_iff.mpr ⟨before, v, after, rfl, earlier, without, rfl⟩)

theorem exists_offers (each : ∀ v ∈ variants, ∃ first, Offers v first) :
    ∃ firsts, List.Forall₂ Offers variants firsts := by
  induction variants with
  | nil => exact ⟨[], .nil⟩
  | cons v rest ih =>
    obtain ⟨⟨first, offers⟩, others⟩ := List.forall_mem_cons.mp each
    obtain ⟨firsts, later⟩ := ih others
    exact ⟨first :: firsts, .cons offers later⟩

theorem exists_ruleSchema_iff : (∃ rule, ruleSchema spec = .ok rule) ↔
    ∃ variants, spec.walk? variantsPath = some (.array variants) ∧
      ∀ v ∈ variants, ∃ first, Offers v first := by
  simp only [ruleSchema_ok_iff]
  constructor
  · rintro ⟨_, variants, firsts, listed, each, rfl⟩
    refine ⟨variants, listed, ?_⟩
    intro v member
    exact exists_of_forall₂ each member
  · rintro ⟨variants, listed, each⟩
    obtain ⟨firsts, offered⟩ := exists_offers each
    exact ⟨_, variants, firsts, listed, offered, rfl⟩

section Alternatives

def meets (o : Fields) (schema : Json) : Bool :=
  (((schema.member? "required").bind Json.items?).getD []).all fun v =>
    v.string?.all fun key => (o.lookup key).isSome

def alternatives (rule : Json) : List Json :=
  ((rule.member? "oneOf").bind Json.items?).getD []

def MeetsOne (o : Fields) (rule : Json) : Prop :=
  (alternatives rule).countP (meets o) = 1

theorem countP_meets {keys : List String} (distinct : keys.Nodup) (o : Fields) :
    (keys.map fun key => Json.object [("required", .strings [key])]).countP (meets o) =
      ((o.map (·.1)).toFinset ∩ keys.toFinset).card := by
  have single : meets o ∘ (fun key => Json.object [("required", .strings [key])]) =
      fun key => (o.lookup key).isSome := by
    funext key
    simp [meets, Json.member?, Json.fields?, Json.items?, Json.strings, Json.string?]
  rw [List.countP_map, single, List.countP_eq_length_filter,
    ← List.toFinset_card_of_nodup (distinct.filter _)]
  congr 1
  ext key
  simp only [List.mem_toFinset, List.mem_filter, Finset.mem_inter, Entries.lookup_isSome_iff]
  exact And.comm

theorem meetsOne_iff {o : Fields} {keys : List String} (distinct : keys.Nodup)
    (listed : alternatives rule =
      keys.map fun key => .object [("required", .strings [key])]) :
    MeetsOne o rule ↔ ∃! key, key ∈ o.map (·.1) ∧ key ∈ keys := by
  rw [MeetsOne, listed, countP_meets distinct, Finset.card_eq_one,
    Finset.singleton_iff_unique_mem]
  simp only [Finset.mem_inter, List.mem_toFinset]

end Alternatives

/-- There is a schema of a rule if and only if the variants are an array, reached through objects,
of variants with a property each; otherwise the first one without is named. Its properties have the
keys that stand first in a variant, in the order in which they do so first, and each has the schema
of the last variant with it. Each of them is required by one alternative, so that of an object as
many alternatives hold as it has keys among them. -/
theorem ruleSchema_exactly_one (spec : Json) :
    ((∃ rule, ruleSchema spec = .ok rule) ↔
      ∃ variants, spec.walk? variantsPath = some (.array variants) ∧
        ∀ v ∈ variants, ∃ first, Offers v first) ∧
    (∀ e, ruleSchema spec = .error e ↔
      (¬ ∃ variants, spec.walk? variantsPath = some (.array variants)) ∧
          e = mismatch variantsPointer "expected an array of rule variants" ∨
        ∃ before v after, spec.walk? variantsPath = some (.array (before ++ v :: after)) ∧
          (∀ w ∈ before, ∃ first, Offers w first) ∧ (∀ first, ¬ Offers v first) ∧
          e = mismatch (variantsPointer ++ "/" ++ Digits.decimal before.length ++ "/properties")
            "rule variant has no properties") ∧
    ∀ rule, ruleSchema spec = .ok rule → ∃ variants firsts properties,
      spec.walk? variantsPath = some (.array variants) ∧
      List.Forall₂ Offers variants firsts ∧
      properties.map (·.1) = (firsts.map (·.1)).eraseDups ∧
      (∀ key, properties.lookup key = firsts.reverse.lookup key) ∧
      rule = .object [("type", .string "object"), ("properties", .object properties),
        ("oneOf", .array ((properties.map (·.1)).map fun key =>
          .object [("required", .strings [key])]))] ∧
      (properties.map (·.1)).Nodup ∧
      ∀ o : Fields,
        (alternatives rule).countP (meets o) =
          ((o.map (·.1)).toFinset ∩ (properties.map (·.1)).toFinset).card ∧
        (MeetsOne o rule ↔ ∃! key, key ∈ o.map (·.1) ∧ key ∈ properties.map (·.1)) := by
  refine ⟨exists_ruleSchema_iff, fun e => ruleSchema_error_iff, fun rule built => ?_⟩
  obtain ⟨variants, firsts, listed, each, rfl⟩ := ruleSchema_ok_iff.mp built
  have distinct : ((Entries.ofList firsts).map (·.1)).Nodup := Entries.nodup_overlay List.nodup_nil
  exact ⟨variants, firsts, Entries.ofList firsts, listed, each, Entries.keys_ofList firsts,
    Entries.lookup_ofList firsts, rfl, distinct,
    fun o => ⟨countP_meets distinct o, meetsOne_iff distinct rfl⟩⟩

def specOf (variants : List Json) : Json :=
  .object [("properties", .object [("include", .object [("items", .object [("oneOf",
    .array variants)])])])]

def variantOf (properties : Fields) : Json :=
  .object [("properties", .object properties)]

theorem repeated_key_exactly_one :
    (∃ rule, ruleSchema (specOf [variantOf [("a", .bool true)], variantOf [("b", .null)],
        variantOf [("a", .null)]]) = .ok rule ∧
      MeetsOne [("a", .null), ("c", .null)] rule ∧ ¬ MeetsOne [("b", .null), ("a", .null)] rule) ∧
    ruleSchema (specOf [variantOf [("a", .null)], variantOf []]) =
      .error (mismatch (variantsPointer ++ "/" ++ Digits.decimal 1 ++ "/properties")
        "rule variant has no properties") := by
  constructor
  · obtain ⟨_, _, merged⟩ := ruleSchema_exactly_one
      (specOf [variantOf [("a", .bool true)], variantOf [("b", .null)], variantOf [("a", .null)]])
    have built : ruleSchema (specOf [variantOf [("a", .bool true)], variantOf [("b", .null)],
        variantOf [("a", .null)]]) =
          .ok (ofProperties [("a", .null), ("b", .null)] ["a", "b"]) := rfl
    obtain ⟨_, _, properties, _, _, _, _, same, _, holds⟩ := merged _ built
    have read : properties = [("a", .null), ("b", .null)] := by
      cases congrArg (Json.member? · "properties") same
      rfl
    subst read
    refine ⟨_, built, (holds _).2.mpr ⟨"a", by simp, by simp⟩, fun one => ?_⟩
    obtain ⟨key, _, only⟩ := (holds _).2.mp one
    have first := only "a" (by simp)
    have second := only "b" (by simp)
    exact absurd (first.trans second.symm) (by decide)
  · obtain ⟨_, refused, _⟩ :=
      ruleSchema_exactly_one (specOf [variantOf [("a", .null)], variantOf []])
    refine (refused _).mpr (Or.inr ⟨[variantOf [("a", .null)]], variantOf [], [], rfl, ?_, ?_, rfl⟩)
    · exact List.forall_mem_singleton.mpr ⟨("a", .null), [], rfl⟩
    · rintro first ⟨rest, member⟩
      cases member

section Declared

def Declares (schema : Json) (key : String) : Prop :=
  ∃ properties, schema.member? "properties" = some (.object properties) ∧
    key ∈ properties.map (·.1)

theorem Offers.declares (offers : Offers v first) : Declares v first.1 := by
  obtain ⟨rest, member⟩ := offers
  exact ⟨first :: rest, member, List.mem_cons_self⟩

theorem Offers.unique {other : String × Json} (offers : Offers v first) (also : Offers v other) :
    first = other := by
  obtain ⟨rest, member⟩ := offers
  obtain ⟨more, again⟩ := also
  cases member.symm.trans again
  rfl

theorem mem_firsts_iff {firsts : List (String × Json)} {key : String}
    (each : List.Forall₂ Offers variants firsts) :
    key ∈ firsts.map (·.1) ↔ ∃ v ∈ variants, ∃ schema, Offers v (key, schema) := by
  rw [List.mem_map]
  constructor
  · rintro ⟨⟨key, schema⟩, member, rfl⟩
    obtain ⟨v, there, offers⟩ := exists_mem_of_forall₂ each.flip member
    exact ⟨v, there, schema, offers⟩
  · rintro ⟨v, member, schema, offers⟩
    obtain ⟨first, there, also⟩ := exists_mem_of_forall₂ each member
    exact ⟨first, there, by rw [also.unique offers]⟩

theorem declares_iff (built : ruleSchema spec = .ok rule)
    (listed : spec.walk? variantsPath = some (.array variants)) {key : String} :
    Declares rule key ↔ ∃ v ∈ variants, ∃ schema, Offers v (key, schema) := by
  obtain ⟨others, firsts, also, each, rfl⟩ := ruleSchema_ok_iff.mp built
  cases listed.symm.trans also
  rw [← mem_firsts_iff each, ← List.mem_eraseDups, ← Entries.keys_ofList]
  constructor
  · rintro ⟨properties, member, there⟩
    cases member
    exact there
  · intro there
    exact ⟨_, rfl, there⟩

/-- Whatever their properties beside the first, variants with a property each have a schema of a
rule, and it has the keys that stand first in one of them. So a key of a variant is lost if and only
if it stands first in none, and none is lost if each has one key only. -/
theorem ruleSchema_declares (listed : spec.walk? variantsPath = some (.array variants))
    (each : ∀ v ∈ variants, ∃ first, Offers v first) :
    ∃ rule, ruleSchema spec = .ok rule ∧
      (∀ key, Declares rule key ↔ ∃ v ∈ variants, ∃ schema, Offers v (key, schema)) ∧
      (∀ key, Declares rule key → ∃ v ∈ variants, Declares v key) ∧
      ((∀ key, Declares rule key ↔ ∃ v ∈ variants, Declares v key) ↔
        ∀ v ∈ variants, ∀ key, Declares v key → ∃ w ∈ variants, ∃ schema, Offers w (key, schema)) ∧
      ((∀ v ∈ variants, ∃ only, v.member? "properties" = some (.object [only])) →
        ∀ key, Declares rule key ↔ ∃ v ∈ variants, Declares v key) := by
  obtain ⟨rule, built⟩ := exists_ruleSchema_iff.mpr ⟨variants, listed, each⟩
  have keys : ∀ key, Declares rule key ↔ ∃ v ∈ variants, ∃ schema, Offers v (key, schema) :=
    fun key => declares_iff built listed
  have kept : ∀ key, Declares rule key → ∃ v ∈ variants, Declares v key := by
    intro key has
    obtain ⟨v, member, schema, offers⟩ := (keys key).mp has
    exact ⟨v, member, offers.declares⟩
  have whole : (∀ key, Declares rule key ↔ ∃ v ∈ variants, Declares v key) ↔
      ∀ v ∈ variants, ∀ key, Declares v key → ∃ w ∈ variants, ∃ schema, Offers w (key, schema) := by
    constructor
    · intro same v member key declares
      exact (keys key).mp ((same key).mpr ⟨v, member, declares⟩)
    · intro offered key
      refine ⟨kept key, ?_⟩
      rintro ⟨v, member, declares⟩
      exact (keys key).mpr (offered v member key declares)
  refine ⟨rule, built, keys, kept, whole, fun single => whole.mpr ?_⟩
  rintro v member key ⟨properties, found, there⟩
  obtain ⟨only, alone⟩ := single v member
  cases found.symm.trans alone
  cases List.mem_singleton.mp there
  exact ⟨v, member, only.2, [], found⟩

def pair : Json :=
  variantOf [("a", .null), ("b", .null)]

theorem pair_offers : Offers pair ("a", .null) :=
  ⟨[("b", .null)], rfl⟩

theorem second_not_offered : ¬ ∃ v ∈ [pair], ∃ schema, Offers v ("b", schema) := by
  rintro ⟨v, member, schema, offers⟩
  cases List.mem_singleton.mp member
  have same := congrArg Prod.fst (offers.unique pair_offers)
  simp at same

theorem second_key_undeclared :
    ∃ rule, ruleSchema (specOf [pair]) = .ok rule ∧ Declares rule "a" ∧ ¬ Declares rule "b" := by
  have each : ∀ v ∈ [pair], ∃ first, Offers v first :=
    List.forall_mem_singleton.mpr ⟨_, pair_offers⟩
  have listed : (specOf [pair]).walk? variantsPath = some (.array [pair]) := rfl
  obtain ⟨rule, built, keys, _⟩ := ruleSchema_declares listed each
  exact ⟨rule, built, (keys "a").mpr ⟨pair, List.mem_cons_self, .null, pair_offers⟩,
    mt (keys "b").mp second_not_offered⟩

theorem second_key_lost :
    ¬ ∀ spec rule variants, ruleSchema spec = .ok rule →
      spec.walk? variantsPath = some (.array variants) →
      ∀ key, Declares rule key ↔ ∃ v ∈ variants, Declares v key := by
  intro union
  have built : ruleSchema (specOf [pair]) = .ok (ofProperties [("a", .null)] ["a"]) := rfl
  have declared : Declares pair "b" := ⟨_, rfl, List.mem_cons_of_mem _ List.mem_cons_self⟩
  have lost := (union _ _ [pair] built rfl "b").mpr ⟨pair, List.mem_cons_self, declared⟩
  exact second_not_offered ((declares_iff built rfl).mp lost)

end Declared

end Rules

end OperatorKit
