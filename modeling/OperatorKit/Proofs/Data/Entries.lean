import Mathlib.Data.List.Induction
import Mathlib.Data.List.Nodup
import OperatorKit.Data.Entries

/-!
Where an entry comes from. Laying entries over others brings in none that neither has; a shared key
keeps its place and takes the upper value, and a new key goes to the end. Entries that are put together
key by key have each key once, and then their order makes no difference to looking a key up.
-/

namespace OperatorKit.Entries

variable {α : Type} {entries others lower upper : Entries α} {key : String} {value : α}

section Lookup

theorem mem_of_lookup (found : entries.lookup key = some value) : (key, value) ∈ entries := by
  obtain ⟨before, after, split, _⟩ := List.lookup_eq_some_iff.mp found
  exact split ▸ List.mem_append_right before List.mem_cons_self

theorem lookup_cons (entry : String × α) (rest : Entries α) (key : String) :
    List.lookup key (entry :: rest) = if key = entry.1 then some entry.2 else rest.lookup key := by
  obtain ⟨k, v⟩ := entry
  by_cases same : key = k
  · simp [same]
  · have apart : (key == k) = false := beq_eq_false_iff_ne.mpr same
    simp [List.lookup_cons, apart, same]

theorem lookup_isSome_iff : (entries.lookup key).isSome = true ↔ key ∈ entries.map (·.1) := by
  rw [List.lookup_isSome_iff, List.mem_map]
  constructor
  · rintro ⟨entry, member, same⟩
    exact ⟨entry, member, (beq_iff_eq.mp same).symm⟩
  · rintro ⟨entry, member, same⟩
    exact ⟨entry, member, beq_iff_eq.mpr same.symm⟩

theorem lookup_filter (keep : String → Bool) (entries : Entries α) (key : String) :
    (entries.filter fun entry => keep entry.1).lookup key =
      if keep key then entries.lookup key else none := by
  induction entries with
  | nil => exact (ite_self none).symm
  | cons entry rest ih =>
    rw [List.filter_cons]
    by_cases kept : keep entry.1 = true
    · rw [if_pos kept, lookup_cons, lookup_cons, ih]
      by_cases same : key = entry.1
      · rw [if_pos same, if_pos same, same, if_pos kept]
      · rw [if_neg same, if_neg same]
    · rw [if_neg kept, ih, lookup_cons]
      by_cases same : key = entry.1
      · rw [same, if_neg kept, if_neg kept]
      · rw [if_neg same]

end Lookup

section Put

theorem mem_put {entry : String × α} (member : entry ∈ put entries key value) :
    entry = (key, value) ∨ entry ∈ entries := by
  induction entries with
  | nil => exact Or.inl (List.mem_singleton.mp member)
  | cons head rest ih =>
    obtain ⟨k, v⟩ := head
    simp only [put] at member
    split at member
    · rename_i same
      rcases List.mem_cons.mp member with first | later
      · exact Or.inl (same ▸ first)
      · exact Or.inr (List.mem_cons_of_mem _ later)
    · rcases List.mem_cons.mp member with first | later
      · exact Or.inr (first ▸ List.mem_cons_self)
      · exact (ih later).imp_right (List.mem_cons_of_mem _)

theorem lookup_put (entries : Entries α) (key : String) (value : α) (other : String) :
    (put entries key value).lookup other =
      if other = key then some value else entries.lookup other := by
  induction entries with
  | nil => simp only [put, lookup_cons]
  | cons head rest ih =>
    obtain ⟨k, v⟩ := head
    by_cases place : k = key
    · subst place
      by_cases same : other = k <;> simp [put, lookup_cons, same]
    · by_cases here : other = k
      · simp [put, here, place]
      · simp [put, lookup_cons, here, place, ih]

theorem keys_put (entries : Entries α) (key : String) (value : α) :
    (put entries key value).map (·.1) =
      if key ∈ entries.map (·.1) then entries.map (·.1) else entries.map (·.1) ++ [key] := by
  induction entries with
  | nil => rfl
  | cons head rest ih =>
    obtain ⟨k, v⟩ := head
    by_cases place : k = key
    · simp [put, place]
    · simp only [put, if_neg place, List.map_cons, ih]
      by_cases member : key ∈ rest.map (·.1)
      · simp [member]
      · simp [member, Ne.symm place]

theorem mem_keys_put {name : String} :
    name ∈ (put entries key value).map (·.1) ↔ name = key ∨ name ∈ entries.map (·.1) := by
  rw [keys_put]
  split
  · rename_i old
    exact ⟨Or.inr, fun member => member.elim (fun same => same ▸ old) id⟩
  · rw [List.mem_append, List.mem_singleton, or_comm]

theorem put_of_lookup (found : entries.lookup key = some value) :
    put entries key value = entries := by
  induction entries with
  | nil => cases found
  | cons head rest ih =>
    obtain ⟨k, v⟩ := head
    rw [lookup_cons] at found
    by_cases place : k = key
    · rw [if_pos place.symm] at found
      cases found
      simp [put, place]
    · rw [if_neg (Ne.symm place)] at found
      simp [put, place, ih found]

theorem put_of_new (new : key ∉ entries.map (·.1)) :
    put entries key value = entries ++ [(key, value)] := by
  induction entries with
  | nil => rfl
  | cons entry rest ih =>
    obtain ⟨apart, later⟩ := not_or.mp (mt List.mem_cons.mpr new)
    rw [put, if_neg (Ne.symm apart), ih later, List.cons_append]

theorem put_put (entries : Entries α) (key : String) (first second : α) :
    put (put entries key first) key second = put entries key second := by
  induction entries with
  | nil => simp [put]
  | cons head rest ih =>
    obtain ⟨k, v⟩ := head
    by_cases place : k = key
    · simp [put, place]
    · simp [put, place, ih]

end Put

section Erase

theorem mem_erase {entry : String × α} :
    entry ∈ erase entries key ↔ entry ∈ entries ∧ entry.1 ≠ key := by
  simp [erase, List.mem_filter]

theorem erase_cons (entry : String × α) (rest : Entries α) (key : String) :
    erase (entry :: rest) key = if entry.1 = key then erase rest key else entry :: erase rest key := by
  by_cases same : entry.1 = key <;> simp [erase, same]

theorem lookup_erase (entries : Entries α) (key other : String) :
    (erase entries key).lookup other = if other = key then none else entries.lookup other := by
  rw [erase, lookup_filter (fun k => k ≠ key)]
  by_cases same : other = key <;> simp [same]

theorem erase_put (entries : Entries α) (key other : String) (value : α) :
    erase (put entries key value) other =
      if key = other then erase entries other else put (erase entries other) key value := by
  induction entries with
  | nil => exact erase_cons _ _ _
  | cons head rest ih =>
    obtain ⟨k, v⟩ := head
    by_cases place : k = key
    · subst place
      by_cases same : k = other <;> simp [put, erase_cons, same]
    · have later : put ((k, v) :: rest) key value = (k, v) :: put rest key value := if_neg place
      rw [later, erase_cons, erase_cons, ih]
      by_cases here : k = other
      · have apart : key ≠ other := fun same => place (here.trans same.symm)
        simp only [if_pos here, if_neg apart]
      · by_cases same : key = other
        · simp only [if_neg here, if_pos same]
        · simp only [if_neg here, if_neg same, put, if_neg place]

theorem erase_erase (entries : Entries α) (key : String) :
    erase (erase entries key) key = erase entries key := by
  simp [erase, List.filter_filter]

theorem erase_of_lookup_none (absent : entries.lookup key = none) : erase entries key = entries := by
  refine List.filter_eq_self.mpr fun entry member => ?_
  have apart := List.lookup_eq_none_iff.mp absent entry member
  exact decide_eq_true fun same => by simp [same] at apart

end Erase

section Overlay

theorem overlay_cons (lower : Entries α) (entry : String × α) (rest : Entries α) :
    overlay lower (entry :: rest) = overlay (put lower entry.1 entry.2) rest :=
  rfl

theorem mem_overlay {entry : String × α} (member : entry ∈ overlay lower upper) :
    entry ∈ lower ∨ entry ∈ upper := by
  induction upper generalizing lower with
  | nil => exact Or.inl member
  | cons head rest ih =>
    rcases ih member with put | later
    · rcases mem_put put with new | old
      · exact Or.inr (new ▸ List.mem_cons_self)
      · exact Or.inl old
    · exact Or.inr (List.mem_cons_of_mem _ later)

theorem erase_overlay (lower upper : Entries α) (key : String) :
    erase (overlay lower upper) key = overlay (erase lower key) (erase upper key) := by
  induction upper generalizing lower with
  | nil => rfl
  | cons head rest ih =>
    rw [overlay_cons, ih, erase_put, erase_cons]
    by_cases same : head.1 = key
    · simp only [if_pos same]
    · simp only [if_neg same, overlay_cons]

/-- The last value above wins, and the lower entries are asked only where there is none. -/
theorem lookup_overlay (lower upper : Entries α) (key : String) :
    (overlay lower upper).lookup key = (upper.reverse.lookup key).or (lower.lookup key) := by
  induction upper generalizing lower with
  | nil => rfl
  | cons head rest ih =>
    rw [overlay_cons, ih, lookup_put, List.reverse_cons, List.lookup_append, lookup_cons]
    by_cases same : key = head.1
    · cases rest.reverse.lookup key <;> simp [same]
    · cases rest.reverse.lookup key <;> simp [same]

theorem overlay_of_lookup (held : ∀ entry ∈ upper, lower.lookup entry.1 = some entry.2) :
    overlay lower upper = lower := by
  induction upper with
  | nil => rfl
  | cons head rest ih =>
    obtain ⟨first, others⟩ := List.forall_mem_cons.mp held
    rw [overlay_cons, put_of_lookup first]
    exact ih others

/-- Shared keys keep their places below, and the keys that are new follow in the upper order. -/
theorem keys_overlay (lower : Entries α) {upper : Entries α}
    (distinct : (upper.map (·.1)).Nodup) :
    (overlay lower upper).map (·.1) =
      lower.map (·.1) ++ (upper.map (·.1)).filter (· ∉ lower.map (·.1)) := by
  induction upper generalizing lower with
  | nil => simp [overlay]
  | cons head rest ih =>
    obtain ⟨first, others⟩ := List.nodup_cons.mp distinct
    rw [overlay_cons, ih _ others, keys_put, List.map_cons, List.filter_cons]
    by_cases shared : head.1 ∈ lower.map (·.1)
    · simp only [shared, if_true, not_true_eq_false, decide_false, Bool.false_eq_true, if_false]
    · have apart : (rest.map (·.1)).filter (· ∉ lower.map (·.1) ++ [head.1]) =
          (rest.map (·.1)).filter (· ∉ lower.map (·.1)) := by
        apply List.filter_congr
        intro key member
        have other : key ≠ head.1 := by
          rintro rfl
          exact first member
        simp [other]
      rw [if_neg shared, apart]
      simp only [shared, not_false_eq_true, decide_true, if_true, List.append_assoc,
        List.singleton_append]

theorem lookup_ofList (entries : Entries α) (key : String) :
    (ofList entries).lookup key = entries.reverse.lookup key := by
  rw [ofList, lookup_overlay, List.lookup_nil, Option.or_none]

theorem keys_ofList (entries : Entries α) :
    (ofList entries).map (·.1) = (entries.map (·.1)).eraseDups := by
  induction entries using List.reverseRecOn with
  | nil => rfl
  | append_singleton front entry ih =>
    have last : ofList (front ++ [entry]) = put (ofList front) entry.1 entry.2 :=
      List.foldl_append
    rw [last, keys_put, ih, List.map_append, List.eraseDups_append, List.map_singleton]
    by_cases old : entry.1 ∈ front.map (·.1)
    · have none : [entry.1].removeAll (front.map (·.1)) = [] := by
        simp [List.removeAll, old]
      rw [if_pos (List.mem_eraseDups.mpr old), none]
      simp
    · have one : [entry.1].removeAll (front.map (·.1)) = [entry.1] := by
        simp [List.removeAll, old]
      rw [if_neg (mt List.mem_eraseDups.mp old), one]
      rfl

end Overlay

section Distinct

theorem nodup_put (distinct : (entries.map (·.1)).Nodup) :
    ((put entries key value).map (·.1)).Nodup := by
  rw [keys_put]
  split
  · exact distinct
  · rename_i new
    rw [← List.concat_eq_append]
    exact distinct.concat new

theorem nodup_overlay (distinct : (lower.map (·.1)).Nodup) :
    ((overlay lower upper).map (·.1)).Nodup := by
  induction upper generalizing lower with
  | nil => exact distinct
  | cons head rest ih => exact ih (nodup_put distinct)

theorem nodup_filter (distinct : (entries.map (·.1)).Nodup) (p : String × α → Bool) :
    ((entries.filter p).map (·.1)).Nodup :=
  (List.filter_sublist.map _).nodup distinct

theorem overlay_eq_append (distinct : ((lower ++ upper).map (·.1)).Nodup) :
    overlay lower upper = lower ++ upper := by
  induction upper generalizing lower with
  | nil => exact (List.append_nil lower).symm
  | cons entry rest ih =>
    have new : entry.1 ∉ lower.map (·.1) := by
      rw [List.map_append, List.map_cons] at distinct
      exact fun old => (List.nodup_append.mp distinct).2.2 _ old _ List.mem_cons_self rfl
    have moved : lower ++ entry :: rest = (lower ++ [entry]) ++ rest := List.append_cons ..
    rw [overlay_cons, put_of_new new, moved, ih (moved ▸ distinct)]

theorem ofList_of_nodup (distinct : (entries.map (·.1)).Nodup) : ofList entries = entries :=
  overlay_eq_append distinct

theorem lookup_eq_some_iff (distinct : (entries.map (·.1)).Nodup) :
    entries.lookup key = some value ↔ (key, value) ∈ entries := by
  refine ⟨mem_of_lookup, fun member => ?_⟩
  have present : (entries.lookup key).isSome = true :=
    lookup_isSome_iff.mpr (List.mem_map_of_mem member)
  obtain ⟨other, found⟩ := Option.isSome_iff_exists.mp present
  have same := List.inj_on_of_nodup_map distinct (mem_of_lookup found) member rfl
  rw [found, (Prod.mk.inj same).2]

theorem mem_put_iff (distinct : (entries.map (·.1)).Nodup) {entry : String × α} :
    entry ∈ put entries key value ↔ entry = (key, value) ∨ entry.1 ≠ key ∧ entry ∈ entries := by
  obtain ⟨k, v⟩ := entry
  rw [← lookup_eq_some_iff (nodup_put distinct), ← lookup_eq_some_iff distinct, lookup_put]
  by_cases same : k = key
  · simp [same, eq_comm]
  · simp [same]

theorem lookup_perm (distinct : (entries.map (·.1)).Nodup) (perm : entries.Perm others) :
    entries.lookup key = others.lookup key := by
  have distinct' := (perm.map (·.1)).nodup_iff.mp distinct
  refine Option.ext fun value => ?_
  rw [lookup_eq_some_iff distinct, lookup_eq_some_iff distinct', perm.mem_iff]

theorem perm_of_subset (distinct : (entries.map (·.1)).Nodup)
    (distinct' : (others.map (·.1)).Nodup) (inside : entries ⊆ others)
    (complete : ∀ entry ∈ others, entry.1 ∈ entries.map (·.1)) : entries.Perm others := by
  refine (List.perm_ext_iff_of_nodup (.of_map _ distinct) (.of_map _ distinct')).mpr fun entry => ?_
  refine ⟨fun member => inside member, fun member => ?_⟩
  obtain ⟨other, there, same⟩ := List.mem_map.mp (complete entry member)
  have one := List.inj_on_of_nodup_map distinct' (inside there) member same
  exact one ▸ there

end Distinct

end OperatorKit.Entries
