import OperatorKit.Proofs.Schema.Clean
import OperatorKit.Proofs.Schema.Cycles

/-!
A schema without its documentation: no field at any level has a key that never survives. What stands
under a reference is left as it is, since it is read as a whole or not at all. Looking up a key that
survives, erasing a key and laying one object over another come to the same before and after
stripping, in the order of the keys too.
-/

namespace OperatorKit.Schema

mutual

def strip : Json → Json
  | .array vs => .array (stripItems vs)
  | .object fields => .object (stripFields fields)
  | v => v

def stripItems : List Json → List Json
  | [] => []
  | v :: rest => strip v :: stripItems rest

def stripFields : List (String × Json) → List (String × Json)
  | [] => []
  | (key, v) :: rest =>
    if Keyword.isStripped key then stripFields rest
    else (key, if key = Keyword.reference then v else strip v) :: stripFields rest

end

def stripUnder (key : String) (v : Json) : Json :=
  if key = Keyword.reference then v else strip v

theorem stripItems_eq (vs : List Json) : stripItems vs = vs.map strip := by
  induction vs with
  | nil => rfl
  | cons v rest ih => rw [stripItems, List.map_cons, ih]

theorem stripFields_of_stripped {key : String} (stripped : Keyword.isStripped key = true) (v : Json)
    (rest : Fields) : stripFields ((key, v) :: rest) = stripFields rest := by
  simp only [stripFields, stripped, if_true]

theorem stripFields_of_plain {key : String} (plain : Keyword.isStripped key = false) (v : Json)
    (rest : Fields) :
    stripFields ((key, v) :: rest) = (key, stripUnder key v) :: stripFields rest := by
  simp only [stripFields, plain, Bool.false_eq_true, if_false, stripUnder]

theorem stripFields_eq (fields : Fields) :
    stripFields fields = (kept fields).map fun field => (field.1, stripUnder field.1 field.2) := by
  induction fields with
  | nil => rfl
  | cons field rest ih =>
    obtain ⟨key, v⟩ := field
    cases stripped : Keyword.isStripped key with
    | true =>
      have dropped : kept ((key, v) :: rest) = kept rest := by simp [kept, stripped]
      rw [stripFields_of_stripped stripped, dropped, ih]
    | false =>
      have stays : kept ((key, v) :: rest) = (key, v) :: kept rest := by simp [kept, stripped]
      rw [stripFields_of_plain stripped, stays, List.map_cons, ih]

theorem stripFields_of_free {fields : Fields} (free : fields.lookup Keyword.reference = none) :
    stripFields fields = (kept fields).map fun field => (field.1, strip field.2) := by
  rw [stripFields_eq]
  refine List.map_congr_left fun field member => ?_
  rw [stripUnder, if_neg (lookup_none free (mem_kept.mp member).1)]

theorem lookup_stripFields {key : String} (plain : Keyword.isStripped key = false)
    (fields : Fields) :
    (stripFields fields).lookup key = (fields.lookup key).map (stripUnder key) := by
  induction fields with
  | nil => rfl
  | cons field rest ih =>
    obtain ⟨k, v⟩ := field
    cases stripped : Keyword.isStripped k with
    | true =>
      have apart : key ≠ k := by
        rintro rfl
        cases plain.symm.trans stripped
      rw [stripFields_of_stripped stripped, ih, Entries.lookup_cons, if_neg apart]
    | false =>
      rw [stripFields_of_plain stripped, Entries.lookup_cons, Entries.lookup_cons, ih]
      by_cases same : key = k
      · simp [same]
      · simp [same]

theorem kept_erase (fields : Fields) (key : String) :
    kept (Entries.erase fields key) = Entries.erase (kept fields) key := by
  unfold kept Entries.erase
  rw [List.filter_filter, List.filter_filter]
  simp only [Bool.and_comm]

theorem stripFields_erase (fields : Fields) (key : String) :
    stripFields (Entries.erase fields key) = Entries.erase (stripFields fields) key := by
  rw [stripFields_eq, stripFields_eq, kept_erase]
  unfold Entries.erase
  rw [List.filter_map]
  rfl

theorem stripFields_put (fields : Fields) (key : String) (v : Json) :
    stripFields (Entries.put fields key v) =
      if Keyword.isStripped key then stripFields fields
      else Entries.put (stripFields fields) key (stripUnder key v) := by
  induction fields with
  | nil =>
    cases stripped : Keyword.isStripped key with
    | true => exact stripFields_of_stripped stripped v []
    | false => exact stripFields_of_plain stripped v []
  | cons field rest ih =>
    obtain ⟨k, w⟩ := field
    by_cases same : k = key
    · subst same
      have place : Entries.put ((k, w) :: rest) k v = (k, v) :: rest := if_pos rfl
      cases stripped : Keyword.isStripped k with
      | true => rw [place, stripFields_of_stripped stripped, stripFields_of_stripped stripped, if_pos rfl]
      | false =>
        rw [place, stripFields_of_plain stripped, stripFields_of_plain stripped,
          if_neg Bool.false_ne_true, Entries.put, if_pos rfl]
    · have later : Entries.put ((k, w) :: rest) key v = (k, w) :: Entries.put rest key v :=
        if_neg same
      cases stripped : Keyword.isStripped k with
      | true => rw [later, stripFields_of_stripped stripped, ih, stripFields_of_stripped stripped]
      | false =>
        rw [later, stripFields_of_plain stripped, ih, stripFields_of_plain stripped]
        split
        · rfl
        · rw [Entries.put, if_neg same]

theorem stripFields_overlay (lower upper : Fields) :
    stripFields (Entries.overlay lower upper) =
      Entries.overlay (stripFields lower) (stripFields upper) := by
  induction upper generalizing lower with
  | nil => rfl
  | cons head rest ih =>
    obtain ⟨key, v⟩ := head
    rw [Entries.overlay_cons, ih, stripFields_put]
    cases stripped : Keyword.isStripped key with
    | true => rw [if_pos rfl, stripFields_of_stripped stripped]
    | false =>
      rw [if_neg Bool.false_ne_true, stripFields_of_plain stripped]
      rfl

end OperatorKit.Schema
