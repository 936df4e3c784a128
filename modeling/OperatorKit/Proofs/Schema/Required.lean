import OperatorKit.Proofs.Schema.ReferenceFree
import OperatorKit.Proofs.Schema.Success

/-!
Required properties. A schema lists the names of the properties that an object must have, and what it
lists it should declare. Resolution drops every field with a key that never survives, and the
properties of a schema are fields like any others, while the list of required names is left as it is.
So what is required is still declared exactly if no required property has such a name.
-/

namespace OperatorKit

/-- An object that has properties lists this name as required. -/
structure Fields.Requires (fields properties : Fields) (name : String) : Prop where
  declared : fields.lookup "properties" = some (.object properties)
  listed : ∃ items, fields.lookup "required" = some (.array items) ∧ Json.string name ∈ items

def Fields.DeclaresRequired (fields : Fields) : Prop :=
  ∀ properties name, Requires fields properties name → name ∈ properties.map (·.1)

namespace Fields

variable {fields properties : Fields} {items : List Json}

theorem declaresRequired_of_unlisted (absent : fields.lookup "required" = none) :
    DeclaresRequired fields := by
  rintro _ _ ⟨_, _, listed, _⟩
  cases absent.symm.trans listed

theorem throughout_of_unlisted (absent : fields.lookup "required" = none)
    (each : ∀ field ∈ fields, field.2.Throughout DeclaresRequired) :
    (Json.object fields).Throughout DeclaresRequired :=
  Json.throughout_object_iff.mpr ⟨declaresRequired_of_unlisted absent, each⟩

theorem throughout_text (text : String) : (Json.string text).Throughout DeclaresRequired :=
  Json.throughout_scalar ⟨rfl, rfl⟩

theorem throughout_strings (texts : List String) :
    (Json.strings texts).Throughout DeclaresRequired :=
  Json.throughout_array_iff.mpr (List.forall_mem_map.mpr fun text _ => throughout_text text)

theorem declaresRequired_of_bare (absent : fields.lookup "properties" = none) :
    DeclaresRequired fields := by
  rintro _ _ ⟨declared, _⟩
  cases absent.symm.trans declared

theorem declaresRequired_iff_of_lookup
    (declared : fields.lookup "properties" = some (.object properties))
    (listed : fields.lookup "required" = some (.array items)) :
    DeclaresRequired fields ↔ ∀ name, Json.string name ∈ items → name ∈ properties.map (·.1) := by
  constructor
  · exact fun declares name member => declares properties name ⟨declared, items, listed, member⟩
  · rintro each _ name ⟨declared', _, listed', member⟩
    cases declared.symm.trans declared'
    cases listed.symm.trans listed'
    exact each name member

end Fields

namespace Schema

/-- Each name that is listed as required is that of a property that survives, once the references
among the properties are followed. -/
def DeclaresKept (document : Json) (fields : Fields) : Prop :=
  ∀ properties name, Fields.Requires fields properties name →
    ∀ links merged, Chain document properties links merged → name ∈ (kept merged).map (·.1)

/-- Every object that unfolding comes to, its references followed, declares what it requires. -/
def RequiresKept (document node : Json) : Prop :=
  ∀ trail fields, Reaches document node trail (.object fields) →
    fields.lookup Keyword.reference = none → DeclaresKept document fields

variable {document v r : Json} {fields merged results : Fields} {links : List (String × Fields)}

theorem mem_keys_kept {name : String} :
    name ∈ (kept fields).map (·.1) ↔ name ∈ fields.map (·.1) ∧ Keyword.isStripped name = false := by
  simp only [List.mem_map, mem_kept]
  constructor
  · rintro ⟨field, ⟨member, plain⟩, rfl⟩
    exact ⟨⟨field, member, rfl⟩, plain⟩
  · rintro ⟨⟨field, member, rfl⟩, plain⟩
    exact ⟨field, ⟨member, plain⟩, rfl⟩

theorem lookup_kept {key : String} (plain : Keyword.isStripped key = false) (fields : Fields) :
    (kept fields).lookup key = fields.lookup key := by
  rw [kept, Entries.lookup_filter (fun k => !Keyword.isStripped k), plain, Bool.not_false, if_pos rfl]

section Unfolding

theorem requiresKept_scalar (plain : v.fields? = none ∧ v.items? = none) :
    RequiresKept document v := by
  intro trail fields reaches
  cases reaches with
  | here => cases plain.1
  | step unfolds _ =>
    cases unfolds with
    | item _ => cases plain.2
    | _ => cases plain.1

theorem requiresKept_array_iff {vs : List Json} :
    RequiresKept document (.array vs) ↔ ∀ v ∈ vs, RequiresKept document v := by
  constructor
  · intro whole v member trail fields reaches
    exact whole _ fields ((Unfolds.reaches (.item member)).trans reaches)
  · intro each trail fields reaches
    cases reaches with
    | step unfolds below =>
      cases unfolds with
      | item member => exact each _ member _ fields below

/-- An object without a reference that is reached from another is what its chain comes to, or stands
below a field of that. -/
theorem Chain.reaches_cases {trail : List String} {final : Fields}
    (chain : Chain document fields links merged)
    (reaches : Reaches document (.object fields) trail (.object final))
    (free : final.lookup Keyword.reference = none) :
    final = merged ∨
      ∃ field ∈ kept merged, ∃ rest, Reaches document field.2 rest (.object final) := by
  induction chain generalizing trail with
  | done ended =>
    cases reaches with
    | here => exact Or.inl rfl
    | step unfolds below =>
      cases unfolds with
      | field _ member => exact Or.inr ⟨_, member, _, below⟩
      | follow next _ => cases ended.symm.trans next
  | link next leads _ ih =>
    cases reaches with
    | here => cases free.symm.trans next
    | step unfolds below =>
      cases unfolds with
      | field ended _ => cases ended.symm.trans next
      | follow next' leads' =>
        cases next.symm.trans next'
        cases leads.unique leads'
        exact ih below

theorem Chain.requiresKept_iff (chain : Chain document fields links merged) :
    RequiresKept document (.object fields) ↔
      DeclaresKept document merged ∧ ∀ field ∈ kept merged, RequiresKept document field.2 := by
  constructor
  · intro whole
    refine ⟨whole _ merged chain.reaches chain.free, fun field member trail final reaches => ?_⟩
    exact whole _ final ((chain.reaches_field member).trans reaches)
  · rintro ⟨here, below⟩ trail final reaches free
    rcases chain.reaches_cases reaches free with rfl | ⟨field, member, rest, deeper⟩
    · exact here
    · exact below field member rest final deeper free

end Unfolding

section Meaning

theorem means_string_iff {text : String} : Means document v (.string text) ↔ v = .string text := by
  constructor
  · intro means
    cases means
    rfl
  · rintro rfl
    exact .scalar ⟨rfl, rfl⟩

theorem Means.of_array {vs : List Json} (means : Means document (.array vs) r) :
    ∃ rs, r = .array rs ∧ List.Forall₂ (Means document) vs rs := by
  cases means with
  | scalar plain => cases plain.2
  | array items => exact ⟨_, rfl, items⟩

theorem Means.to_array {rs : List Json} (means : Means document v (.array rs)) :
    ∃ vs, v = .array vs ∧ List.Forall₂ (Means document) vs rs := by
  cases means with
  | scalar plain => cases plain.2
  | array items => exact ⟨_, rfl, items⟩

theorem Means.to_object (means : Means document v (.object results)) :
    ∃ fields, v = .object fields := by
  cases means with
  | scalar plain => cases plain.1
  | object _ _ _ => exact ⟨_, rfl⟩

theorem mem_string_iff {vs rs : List Json} (items : List.Forall₂ (Means document) vs rs)
    {text : String} : Json.string text ∈ rs ↔ Json.string text ∈ vs := by
  constructor
  · intro member
    obtain ⟨v, there, means⟩ := exists_mem_of_forall₂ items.flip member
    exact means_string_iff.mp means ▸ there
  · intro member
    obtain ⟨r, there, means⟩ := exists_mem_of_forall₂ items member
    cases means
    exact there

variable {properties : Fields} {name : String}

theorem requires_of_meant (pairs : List.Forall₂ (Json.OnKey (Means document)) (kept merged) results)
    (requires : Fields.Requires results properties name) :
    ∃ before, Fields.Requires merged before name ∧
      Means document (.object before) (.object properties) := by
  obtain ⟨found, _, list, member⟩ := requires
  obtain ⟨v, declared, means⟩ := Json.lookup_some_left pairs found
  obtain ⟨w, listed, means'⟩ := Json.lookup_some_left pairs list
  rw [lookup_kept (by decide)] at declared listed
  obtain ⟨before, rfl⟩ := means.to_object
  obtain ⟨vs, rfl, items⟩ := means'.to_array
  exact ⟨before, ⟨declared, vs, listed, (mem_string_iff items).mp member⟩, means⟩

theorem requires_meant (pairs : List.Forall₂ (Json.OnKey (Means document)) (kept merged) results)
    (requires : Fields.Requires merged properties name) :
    ∃ after, Fields.Requires results after name ∧
      Means document (.object properties) (.object after) := by
  obtain ⟨found, _, list, member⟩ := requires
  rw [← lookup_kept (by decide)] at found list
  obtain ⟨w, declared, means⟩ := Json.lookup_some_right pairs found
  obtain ⟨w', listed, means'⟩ := Json.lookup_some_right pairs list
  obtain ⟨_, _, after, _, rfl, _⟩ := means_object_iff.mp means
  obtain ⟨rs, rfl, items⟩ := means'.of_array
  exact ⟨after, ⟨declared, rs, listed, (mem_string_iff items).mpr member⟩, means⟩

theorem keys_meant (means : Means document (.object fields) (.object results)) :
    ∃ links merged, Chain document fields links merged ∧
      results.map (·.1) = (kept merged).map (·.1) := by
  obtain ⟨links, merged, _, chain, same, pairs⟩ := means_object_iff.mp means
  cases same
  exact ⟨links, merged, chain, (Json.keys_eq pairs).symm⟩

theorem declaresRequired_iff
    (pairs : List.Forall₂ (Json.OnKey (Means document)) (kept merged) results) :
    Fields.DeclaresRequired results ↔ DeclaresKept document merged := by
  constructor
  · intro declares properties name requires links final chain
    obtain ⟨after, required, means⟩ := requires_meant pairs requires
    obtain ⟨_, _, chain', keys⟩ := keys_meant means
    obtain ⟨_, rfl⟩ := chain.unique chain'
    exact keys ▸ declares after name required
  · intro keeps properties name requires
    obtain ⟨before, required, means⟩ := requires_of_meant pairs requires
    obtain ⟨links, final, chain, keys⟩ := keys_meant means
    exact keys ▸ keeps before name required links final chain

/-- What a schema means declares all that it requires exactly if every object that unfolding comes to
does, under keys that survive. -/
theorem Means.declaresRequired_iff (means : Means document v r) :
    r.Throughout Fields.DeclaresRequired ↔ RequiresKept document v := by
  suffices both : Means document v r ∧
      (r.Throughout Fields.DeclaresRequired ↔ RequiresKept document v) from both.2
  refine Means.induct ?scalar ?array ?object means
  case scalar =>
    intro v plain
    exact ⟨.scalar plain, iff_of_true (Json.throughout_scalar plain) (requiresKept_scalar plain)⟩
  case array =>
    intro vs rs items
    refine ⟨.array (items.imp fun _ _ => And.left), ?_⟩
    rw [Json.throughout_array_iff, requiresKept_array_iff]
    exact forall_mem_iff_of_forall₂ (items.imp fun _ _ => And.right)
  case object =>
    intro fields merged results links chain keys values
    have pairs := Json.onKey_iff.mpr ⟨keys, values.imp fun _ _ => And.left⟩
    refine ⟨means_object_iff.mpr ⟨links, merged, results, chain, rfl, pairs⟩, ?_⟩
    have below : (∀ v ∈ results.map (·.2), v.Throughout Fields.DeclaresRequired) ↔
        ∀ v ∈ (kept merged).map (·.2), RequiresKept document v :=
      forall_mem_iff_of_forall₂ (values.imp fun _ _ => And.right)
    rw [List.forall_mem_map, List.forall_mem_map] at below
    rw [Json.throughout_object_iff, chain.requiresKept_iff, Schema.declaresRequired_iff pairs, below]

end Meaning

section Free

variable {w : Json}

theorem ReferenceFree.inside (free : ReferenceFree v) (inside : v.Contains survives w) :
    ReferenceFree w :=
  fun x written => free x (written.lift inside)

theorem contains_of_reaches {trail : List String} (free : ReferenceFree v)
    (reaches : Reaches document v trail w) : v.Contains survives w := by
  induction reaches with
  | here => exact .here
  | step unfolds _ ih =>
    cases unfolds with
    | item member => exact .item member (ih (free.item member))
    | field _ member =>
      obtain ⟨there, plain⟩ := mem_kept.mp member
      exact .field there (by simp [survives, plain]) (ih (free.field member))
    | follow next _ => cases free.lookup.symm.trans next

theorem exists_reaches_of_contains (document : Json) (free : ReferenceFree v)
    (inside : v.Contains survives w) : ∃ trail, Reaches document v trail w := by
  induction inside with
  | here => exact ⟨[], .here⟩
  | item member _ ih =>
    obtain ⟨trail, reaches⟩ := ih (free.item member)
    exact ⟨_, .step (.item member) reaches⟩
  | field member survives _ ih =>
    have stays := mem_kept.mpr ⟨member, by simpa [Schema.survives] using survives⟩
    obtain ⟨trail, reaches⟩ := ih (free.field stays)
    exact ⟨_, .step (.field free.lookup stays) reaches⟩

theorem ReferenceFree.properties {properties : Fields} {name : String}
    (free : ReferenceFree (.object fields)) (requires : Fields.Requires fields properties name) :
    ReferenceFree (.object properties) := by
  have plain : Keyword.isStripped "properties" = false := by decide
  exact free.field (mem_kept.mpr ⟨Entries.mem_of_lookup requires.declared, plain⟩)

theorem ReferenceFree.requiresKept_iff (free : ReferenceFree v) :
    RequiresKept document v ↔ ∀ fields, v.Contains survives (.object fields) →
      ∀ properties name, Fields.Requires fields properties name →
        name ∈ properties.map (·.1) ∧ Keyword.isStripped name = false := by
  simp only [← mem_keys_kept]
  constructor
  · intro keeps fields inside properties name requires
    obtain ⟨trail, reaches⟩ := exists_reaches_of_contains document free inside
    have here := free.inside inside
    exact keeps trail fields reaches here.lookup properties name requires [] properties
      (.done (here.properties requires).lookup)
  · intro each trail fields reaches ended properties name requires links merged chain
    have inside := contains_of_reaches free reaches
    have bare := (free.inside inside).properties requires
    obtain ⟨_, rfl⟩ := chain.unique (.done bare.lookup)
    exact each fields inside _ name requires

theorem resolve_declaresRequired_iff {node : Json} {limit : Nat} (free : ReferenceFree node)
    (declares : node.Throughout Fields.DeclaresRequired)
    (resolved : resolve document limit node = .ok r) :
    r.Throughout Fields.DeclaresRequired ↔ ∀ fields, node.Contains survives (.object fields) →
      ∀ properties name, Fields.Requires fields properties name →
        Keyword.isStripped name = false := by
  rw [(means_of_resolveValue resolved).declaresRequired_iff, free.requiresKept_iff]
  constructor
  · intro keeps fields inside properties name requires
    exact (keeps fields inside properties name requires).2
  · intro plain fields inside properties name requires
    exact ⟨declares fields inside.anywhere properties name requires,
      plain fields inside properties name requires⟩

def titledNode : Json :=
  .object [("properties", .object [("title", .object [("type", .string "string")])]),
    ("required", .strings ["title"])]

def untitledNode : Json :=
  .object [("properties", .object []), ("required", .strings ["title"])]

theorem titledNode_declares : titledNode.Throughout Fields.DeclaresRequired := by
  have top : Fields.DeclaresRequired [("properties",
      .object [("title", .object [("type", .string "string")])]), ("required", .strings ["title"])] :=
    (Fields.declaresRequired_iff_of_lookup rfl rfl).mpr (by simp)
  have title : (Json.object [("type", .string "string")]).Throughout Fields.DeclaresRequired :=
    Fields.throughout_of_unlisted rfl (by simp [Fields.throughout_text])
  have properties : (Json.object [("title", .object [("type", .string "string")])]).Throughout
      Fields.DeclaresRequired :=
    Fields.throughout_of_unlisted rfl (by simp [title])
  exact Json.throughout_object_iff.mpr ⟨top, by simp [properties, Fields.throughout_strings]⟩

theorem titledNode_unreferring (x : Json) : ¬ Written Json.everyKey titledNode x := by
  simp [titledNode, Json.strings, Keyword.reference, written_object_iff, written_array_iff,
    not_written_scalar, Json.fields?, Json.items?]

theorem required_title_undeclared :
    ¬ ∀ (document node r : Json) (limit : Nat), (∀ x, ¬ Written Json.everyKey node x) →
      node.Throughout Fields.DeclaresRequired → resolve document limit node = .ok r →
      r.Throughout Fields.DeclaresRequired := by
  intro stays
  have resolved : resolve .null 64 titledNode = .ok untitledNode := rfl
  have declares :=
    stays _ _ _ 64 titledNode_unreferring titledNode_declares resolved _ .here
  have requires : Fields.Requires
      [("properties", .object []), ("required", .strings ["title"])] [] "title" :=
    ⟨rfl, _, rfl, List.mem_cons_self⟩
  cases declares [] "title" requires

end Free

end Schema

end OperatorKit
