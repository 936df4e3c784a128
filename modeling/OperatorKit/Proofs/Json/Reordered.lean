import OperatorKit.Proofs.Data.Lists
import OperatorKit.Proofs.Json.Nesting

/-!
The order of keys. Two values are reorderings of one another if they are equal but for the order in
which the objects in them have their keys. Where an object has each of its keys once, that comes to
the same keys leading to reorderings, so the order makes no difference to looking a key up, to laying
one object over another or to leaving some keys out.
-/

namespace OperatorKit

namespace Json

inductive OnKey (R : Json → Json → Prop) : String × Json → String × Json → Prop where
  | mk {key : String} {v w : Json} : R v w → OnKey R (key, v) (key, w)

/-- Two values are equal but for the order of the keys of the objects in them. -/
inductive Reordered : Json → Json → Prop where
  | scalar {v : Json} : v.fields? = none ∧ v.items? = none → Reordered v v
  | array {vs ws : List Json} :
      List.Forall₂ Reordered vs ws → Reordered (.array vs) (.array ws)
  | object {fields shuffled others : Fields} :
      List.Forall₂ (OnKey Reordered) fields shuffled → shuffled.Perm others →
        Reordered (.object fields) (.object others)

theorem Reordered.refl (v : Json) : Reordered v v := by
  induction v using induct with
  | scalar v plain => exact .scalar plain
  | array vs ih => exact .array (List.forall₂_same.mpr ih)
  | object fields ih =>
    exact .object (List.forall₂_same.mpr fun field member => .mk (ih field member)) (.refl fields)

theorem reordered_of_perm {fields others : Fields} (perm : fields.Perm others) :
    Reordered (.object fields) (.object others) :=
  .object (List.forall₂_same.mpr fun field _ => .mk (.refl field.2)) perm

def Distinct (v : Json) : Prop :=
  v.Throughout fun fields => (fields.map (·.1)).Nodup

structure Twins (v w : Json) : Prop where
  reordered : Reordered v w
  distinct : v.Distinct

section Pairs

variable {R : Json → Json → Prop} {fields others : Fields}

theorem keys_eq (pairs : List.Forall₂ (OnKey R) fields others) :
    fields.map (·.1) = others.map (·.1) := by
  rw [← List.forall₂_eq_eq_eq, List.forall₂_map_left_iff, List.forall₂_map_right_iff]
  refine pairs.imp fun a b pair => ?_
  cases pair
  rfl

theorem lookup_onKey (pairs : List.Forall₂ (OnKey R) fields others) (key : String) :
    Option.Rel R (fields.lookup key) (others.lookup key) := by
  induction pairs with
  | nil => exact .none
  | cons pair _ ih =>
    obtain ⟨related⟩ := pair
    rw [Entries.lookup_cons, Entries.lookup_cons]
    split
    · exact .some related
    · exact ih

theorem lookup_some_left (pairs : List.Forall₂ (OnKey R) fields others) {key : String} {w : Json}
    (found : others.lookup key = some w) : ∃ v, fields.lookup key = some v ∧ R v w := by
  have related := lookup_onKey pairs key
  rw [found] at related
  generalize fields.lookup key = before at related
  cases related with
  | some both => exact ⟨_, rfl, both⟩

theorem lookup_some_right (pairs : List.Forall₂ (OnKey R) fields others) {key : String} {v : Json}
    (found : fields.lookup key = some v) : ∃ w, others.lookup key = some w ∧ R v w := by
  have related := lookup_onKey pairs key
  rw [found] at related
  generalize others.lookup key = after at related
  cases related with
  | some both => exact ⟨_, rfl, both⟩

theorem onKey_iff : List.Forall₂ (OnKey R) fields others ↔
    others.map (·.1) = fields.map (·.1) ∧
      List.Forall₂ R (fields.map (·.2)) (others.map (·.2)) := by
  constructor
  · intro pairs
    refine ⟨(keys_eq pairs).symm, ?_⟩
    rw [List.forall₂_map_left_iff, List.forall₂_map_right_iff]
    refine pairs.imp fun a b pair => ?_
    obtain ⟨related⟩ := pair
    exact related
  · rintro ⟨keys, values⟩
    rw [← List.forall₂_eq_eq_eq, List.forall₂_map_left_iff, List.forall₂_map_right_iff] at keys
    rw [List.forall₂_map_left_iff, List.forall₂_map_right_iff] at values
    induction values with
    | nil => exact .nil
    | @cons a b as bs value _ ih =>
      obtain ⟨key, v⟩ := a
      obtain ⟨_, w⟩ := b
      cases keys with
      | cons same keys =>
        cases same
        exact .cons (.mk value) (ih keys)

theorem onKey_filter (keep : String → Bool) (pairs : List.Forall₂ (OnKey R) fields others) :
    List.Forall₂ (OnKey R) (fields.filter fun field => keep field.1)
      (others.filter fun field => keep field.1) := by
  refine List.rel_filter (fun a b pair => ?_) pairs
  cases pair
  exact Iff.rfl

theorem onKey_put {key : String} {v w : Json} (related : R v w)
    (pairs : List.Forall₂ (OnKey R) fields others) :
    List.Forall₂ (OnKey R) (Entries.put fields key v) (Entries.put others key w) := by
  induction pairs with
  | nil => exact .cons (.mk related) .nil
  | cons pair later ih =>
    obtain ⟨here⟩ := pair
    simp only [Entries.put]
    split
    · exact .cons (.mk related) later
    · exact .cons (.mk here) ih

theorem onKey_overlay {upper upper' : Fields} (above : List.Forall₂ (OnKey R) upper upper')
    (below : List.Forall₂ (OnKey R) fields others) :
    List.Forall₂ (OnKey R) (Entries.overlay fields upper) (Entries.overlay others upper') := by
  refine List.rel_foldl (fun lower lower' below a b pair => ?_) below above
  obtain ⟨related⟩ := pair
  exact onKey_put related below

end Pairs

section Objects

variable {v w : Json} {fields others : Fields}

theorem Twins.scalar (twins : Twins v w) (plain : v.fields? = none ∧ v.items? = none) : v = w := by
  cases twins.reordered with
  | scalar _ => rfl
  | array _ => cases plain.2
  | object _ _ => cases plain.1

theorem Twins.array {vs : List Json} (twins : Twins (.array vs) w) :
    ∃ ws, w = .array ws ∧ List.Forall₂ Twins vs ws := by
  have inner := throughout_array_iff.mp twins.distinct
  cases twins.reordered with
  | scalar plain => cases plain.2
  | array items =>
    exact ⟨_, rfl, forall₂_imp_of_mem items fun v member w _ both => ⟨both, inner v member⟩⟩

/-- The fields of a twin are the twins of the fields in some order. -/
theorem Twins.shuffled (twins : Twins (.object fields) w) :
    ∃ shuffled others, w = .object others ∧ shuffled.Perm others ∧
      List.Forall₂ (OnKey Twins) fields shuffled := by
  obtain ⟨_, inner⟩ := throughout_object_iff.mp twins.distinct
  cases twins.reordered with
  | scalar plain => cases plain.1
  | object pairs perm =>
    refine ⟨_, _, rfl, perm, forall₂_imp_of_mem pairs fun field member other _ pair => ?_⟩
    obtain ⟨both⟩ := pair
    exact ⟨both, inner _ member⟩

theorem Twins.lookup (twins : Twins (.object fields) (.object others)) :
    (fields.map (·.1)).Nodup ∧ (others.map (·.1)).Nodup ∧
      ∀ key, Option.Rel Twins (fields.lookup key) (others.lookup key) := by
  have distinct := (throughout_object_iff.mp twins.distinct).1
  obtain ⟨shuffled, _, same, perm, pairs⟩ := twins.shuffled
  cases same
  have distinct' : (shuffled.map (·.1)).Nodup := keys_eq pairs ▸ distinct
  refine ⟨distinct, (perm.map (·.1)).nodup_iff.mp distinct', fun key => ?_⟩
  rw [← Entries.lookup_perm distinct' perm]
  exact lookup_onKey pairs key

theorem Twins.lookup_some (twins : Twins (.object fields) (.object others)) {key : String}
    (found : fields.lookup key = some v) : ∃ w, others.lookup key = some w ∧ Twins v w := by
  have both := twins.lookup.2.2 key
  rw [found] at both
  generalize others.lookup key = there at both
  cases both with
  | some inner => exact ⟨_, rfl, inner⟩

theorem Twins.lookup_none (twins : Twins (.object fields) (.object others)) {key : String}
    (missed : fields.lookup key = none) : others.lookup key = none := by
  have both := twins.lookup.2.2 key
  rw [missed] at both
  generalize others.lookup key = there at both
  cases both
  rfl

theorem exists_shuffled
    (found : ∀ field ∈ fields, ∃ w, (field.1, w) ∈ others ∧ Twins field.2 w) :
    ∃ shuffled, List.Forall₂ (OnKey Twins) fields shuffled ∧ shuffled ⊆ others := by
  induction fields with
  | nil => exact ⟨[], .nil, List.nil_subset _⟩
  | cons field rest ih =>
    obtain ⟨⟨w, member, both⟩, later⟩ := List.forall_mem_cons.mp found
    obtain ⟨shuffled, pairs, inside⟩ := ih later
    exact ⟨(field.1, w) :: shuffled, .cons (.mk both) pairs, List.cons_subset.mpr ⟨member, inside⟩⟩

theorem twins_of_lookup (distinct : (fields.map (·.1)).Nodup)
    (distinct' : (others.map (·.1)).Nodup)
    (same : ∀ key, Option.Rel Twins (fields.lookup key) (others.lookup key)) :
    Twins (.object fields) (.object others) := by
  have found : ∀ field ∈ fields, ∃ w, (field.1, w) ∈ others ∧ Twins field.2 w := by
    intro field member
    have both := same field.1
    rw [(Entries.lookup_eq_some_iff distinct).mpr member] at both
    generalize there : others.lookup field.1 = right at both
    cases both with
    | some twins => exact ⟨_, Entries.mem_of_lookup there, twins⟩
  obtain ⟨shuffled, pairs, inside⟩ := exists_shuffled found
  have keys := keys_eq pairs
  have complete : ∀ field ∈ others, field.1 ∈ shuffled.map (·.1) := by
    intro field member
    have both := same field.1
    rw [(Entries.lookup_eq_some_iff distinct').mpr member] at both
    generalize here : fields.lookup field.1 = left at both
    cases both with
    | some _ =>
      have present : (fields.lookup field.1).isSome = true := by rw [here, Option.isSome_some]
      exact keys ▸ Entries.lookup_isSome_iff.mp present
  have perm := Entries.perm_of_subset (keys ▸ distinct) distinct' inside complete
  refine ⟨.object (forall₂_imp_of_mem pairs ?_) perm, throughout_object_iff.mpr ⟨distinct, ?_⟩⟩
  · rintro _ _ _ _ ⟨both⟩
    exact .mk both.reordered
  · intro field member
    obtain ⟨_, _, both⟩ := found field member
    exact both.distinct

theorem Twins.filter (twins : Twins (.object fields) (.object others)) (keep : String → Bool) :
    Twins (.object (fields.filter fun field => keep field.1))
      (.object (others.filter fun field => keep field.1)) := by
  obtain ⟨distinct, distinct', same⟩ := twins.lookup
  refine twins_of_lookup (Entries.nodup_filter distinct _) (Entries.nodup_filter distinct' _) ?_
  intro key
  rw [Entries.lookup_filter, Entries.lookup_filter]
  split
  · exact same key
  · exact .none

theorem Twins.overlay {lower lower' upper upper' : Fields}
    (below : Twins (.object lower) (.object lower'))
    (above : Twins (.object upper) (.object upper')) :
    Twins (.object (Entries.overlay lower upper)) (.object (Entries.overlay lower' upper')) := by
  obtain ⟨distinct, distinct', same⟩ := below.lookup
  obtain ⟨once, once', sameAbove⟩ := above.lookup
  refine twins_of_lookup (Entries.nodup_overlay distinct) (Entries.nodup_overlay distinct') ?_
  intro key
  have first := sameAbove key
  rw [Entries.lookup_overlay, Entries.lookup_overlay,
    ← Entries.lookup_perm once upper.reverse_perm.symm,
    ← Entries.lookup_perm once' upper'.reverse_perm.symm]
  generalize upper.lookup key = found at first
  generalize upper'.lookup key = found' at first
  cases first with
  | some both => exact .some both
  | none => exact same key

theorem Twins.member (twins : Twins v w) (key : String) :
    Option.Rel Twins (v.member? key) (w.member? key) := by
  cases v with
  | object fields =>
    obtain ⟨_, others, rfl, _⟩ := twins.shuffled
    exact twins.lookup.2.2 key
  | array vs =>
    obtain ⟨ws, rfl, _⟩ := twins.array
    exact .none
  | _ =>
    cases twins.scalar ⟨rfl, rfl⟩
    exact .none

theorem Twins.walk (twins : Twins v w) (path : List String) :
    Option.Rel Twins (v.walk? path) (w.walk? path) := by
  induction path generalizing v w with
  | nil => exact .some twins
  | cons key rest ih =>
    have step := twins.member key
    simp only [walk?]
    generalize v.member? key = child at step
    generalize w.member? key = child' at step
    cases step with
    | none => exact .none
    | some below => exact ih below

end Objects

end Json

end OperatorKit
