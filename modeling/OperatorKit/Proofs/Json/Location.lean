import Mathlib.Data.List.Infix
import OperatorKit.Json.Location
import OperatorKit.Proofs.Data.Entries

/-!
What a change at a location changes. A number has one form as an index, so that no two tokens lead to
the same child, and a location reads as before unless one of the two leads through the other. What is
put at a location is read there, the last of several changes counts, and every value outside of the
location keeps its keys, in their order, or its length.
-/

namespace OperatorKit.Json

section Index

theorem toDigits_digit {c : Char} (digit : c.isDigit = true) :
    c.toNat - '0'.toNat < 10 ∧ Nat.toDigits 10 (c.toNat - '0'.toNat) = [c] := by
  simp only [Char.isDigit, Bool.and_eq_true, decide_eq_true_eq] at digit
  have zero : '0'.toNat = 48 := rfl
  have low : 48 ≤ c.toNat := digit.1
  have high : c.toNat ≤ 57 := digit.2
  have small : c.toNat - '0'.toNat < 10 := by omega
  refine ⟨small, ?_⟩
  rw [Nat.toDigits_of_lt_base small, List.singleton_inj, ← Char.toNat_inj,
    Nat.toNat_digitChar_of_lt_ten small, zero]
  omega

theorem toDigits_foldl {digits : List Char} (all : ∀ c ∈ digits, c.isDigit = true) {n : Nat}
    (positive : 0 < n) :
    Nat.toDigits 10 (digits.foldl (fun n c => n * 10 + (c.toNat - '0'.toNat)) n) =
      Nat.toDigits 10 n ++ digits := by
  induction digits generalizing n with
  | nil => rw [List.foldl_nil, List.append_nil]
  | cons c rest ih =>
    obtain ⟨digit, others⟩ := List.forall_mem_cons.mp all
    obtain ⟨small, alone⟩ := toDigits_digit digit
    have grown : 0 < n * 10 + (c.toNat - '0'.toNat) := by omega
    have last := Nat.toDigits_append_toDigits (by decide) positive small
    rw [List.foldl_cons, ih others grown, Nat.mul_comm n 10, ← last, alone, List.append_assoc]
    rfl

theorem toDigits_of_index? {token : String} {i : Nat} (read : index? token = some i) :
    Nat.toDigits 10 i = token.toList := by
  unfold index? at read
  split at read
  · cases read
  · cases read
  · rename_i digits filled plain
    obtain ⟨c, rest, written⟩ := List.exists_cons_of_ne_nil filled
    split at read
    · rename_i all
      cases read
      rw [written] at all plain ⊢
      obtain ⟨digit, others⟩ := List.forall_mem_cons.mp (List.all_eq_true.mp all)
      obtain ⟨small, alone⟩ := toDigits_digit digit
      rw [List.foldl_cons, Nat.zero_mul, Nat.zero_add]
      by_cases zero : c = '0'
      · cases rest with
        | nil => exact alone
        | cons d more => exact absurd (congrArg (· :: d :: more) zero) (plain d more)
      · have positive : 0 < c.toNat - '0'.toNat := by
          refine Nat.pos_of_ne_zero fun none => ?_
          rw [none, Nat.toDigits_zero] at alone
          exact zero (List.singleton_inj.mp alone).symm
        rw [toDigits_foldl others positive, alone]
        rfl
    · cases read

theorem index?_inj {token other : String} {i : Nat} (read : index? token = some i)
    (also : index? other = some i) : token = other := by
  rw [← String.toList_inj, ← toDigits_of_index? read, toDigits_of_index? also]

end Index

section Child

variable {v child w : Json} {token other : String}

theorem child?_setChild (found : v.child? token = some w) :
    (v.setChild token child).child? token = some child := by
  cases v with
  | object fields =>
    have present : (fields.lookup token).isSome = true := by
      rw [show fields.lookup token = some w from found, Option.isSome_some]
    rw [setChild, if_pos present]
    change (Entries.put fields token child).lookup token = some child
    rw [Entries.lookup_put, if_pos rfl]
  | array vs =>
    obtain ⟨i, read, item⟩ := Option.bind_eq_some_iff.mp found
    obtain ⟨inside, _⟩ := List.getElem?_eq_some_iff.mp item
    simp only [setChild, child?, read, Option.bind_some]
    exact List.getElem?_set_self inside
  | _ => cases found

theorem setChild_setChild (first second : Json) :
    (v.setChild token first).setChild token second = v.setChild token second := by
  cases v with
  | object fields =>
    by_cases present : (fields.lookup token).isSome = true
    · have still : ((Entries.put fields token first).lookup token).isSome = true := by
        rw [Entries.lookup_put, if_pos rfl, Option.isSome_some]
      rw [setChild, if_pos present, setChild, if_pos still, setChild, if_pos present,
        Entries.put_put]
    · rw [setChild, if_neg present]
  | array vs =>
    cases read : index? token with
    | none => simp only [setChild, read]
    | some i => simp only [setChild, read, List.set_set]
  | _ => rfl

theorem setChild_child? (found : v.child? token = some w) : v.setChild token w = v := by
  cases v with
  | object fields =>
    have looked : fields.lookup token = some w := found
    rw [setChild, if_pos (Option.isSome_of_eq_some looked), Entries.put_of_lookup looked]
  | array vs =>
    obtain ⟨i, read, item⟩ := Option.bind_eq_some_iff.mp found
    obtain ⟨inside, rfl⟩ := List.getElem?_eq_some_iff.mp item
    simp only [setChild, read, List.set_getElem_self]
  | _ => cases found

/-- A value without what its members are: the keys of an object, the length of an array and a scalar
as it is. -/
def surface : Json → Json
  | .object fields => .object ((fields.map (·.1)).map fun key => (key, .null))
  | .array vs => .array (vs.map fun _ => .null)
  | v => v

theorem surface_setChild (v : Json) (token : String) (child : Json) :
    (v.setChild token child).surface = v.surface := by
  cases v with
  | object fields =>
    rw [setChild]
    split
    · rename_i present
      rw [surface, surface, Entries.keys_put, if_pos (Entries.lookup_isSome_iff.mp present)]
    · rfl
  | array vs =>
    cases read : index? token with
    | none => simp only [setChild, read]
    | some i => simp only [setChild, read, surface, List.map_const', List.length_set]
  | _ => rfl

theorem child?_setChild_of_ne (apart : other ≠ token) :
    (v.setChild token child).child? other = v.child? other := by
  cases v with
  | object fields =>
    rw [setChild]
    split
    · change (Entries.put fields token child).lookup other = fields.lookup other
      rw [Entries.lookup_put, if_neg apart]
    · rfl
  | array vs =>
    cases read : index? token with
    | none => simp only [setChild, read]
    | some i =>
      cases also : index? other with
      | none => simp only [setChild, child?, read, also, Option.bind_none]
      | some j =>
        have places : i ≠ j := by
          rintro rfl
          exact apart (index?_inj also read)
        simp only [setChild, child?, read, also, Option.bind_some]
        exact List.getElem?_set_ne places
  | _ => rfl

end Child

section Path

variable {path other : List String}

theorem at?_append (v : Json) (path rest : List String) :
    v.at? (path ++ rest) = (v.at? path).bind (·.at? rest) := by
  induction path generalizing v with
  | nil => rfl
  | cons token path ih =>
    rw [List.cons_append, at?, at?, Option.bind_assoc]
    exact congrArg _ (funext ih)

/-- Neither of two locations leads through the other. -/
def Apart (path other : List String) : Prop :=
  ¬ path <+: other ∧ ¬ other <+: path

theorem Apart.tail {token : String} (apart : Apart (token :: path) (token :: other)) :
    Apart path other :=
  ⟨fun leads => apart.1 (List.cons_prefix_cons.mpr ⟨rfl, leads⟩),
    fun leads => apart.2 (List.cons_prefix_cons.mpr ⟨rfl, leads⟩)⟩

theorem at?_setAt_of_apart {v value : Json} (apart : Apart path other) :
    (v.setAt path value).at? other = v.at? other := by
  induction path generalizing v other with
  | nil => exact absurd List.nil_prefix apart.1
  | cons token path ih =>
    cases other with
    | nil => exact absurd List.nil_prefix apart.2
    | cons also other =>
      rw [setAt]
      cases found : v.child? token with
      | none => rfl
      | some child =>
        by_cases same : also = token
        · subst same
          simp only [at?, child?_setChild found, found, Option.bind_some]
          exact ih apart.tail
        · simp only [at?, child?_setChild_of_ne same]

theorem at?_setAt {v w value : Json} (found : v.at? path = some w) :
    (v.setAt path value).at? path = some value := by
  induction path generalizing v with
  | nil => rfl
  | cons token path ih =>
    obtain ⟨child, first, later⟩ := Option.bind_eq_some_iff.mp found
    simp only [setAt, first, at?, child?_setChild first, Option.bind_some]
    exact ih later

theorem setAt_at? {v w : Json} (found : v.at? path = some w) : v.setAt path w = v := by
  induction path generalizing v with
  | nil => exact (Option.some.inj found).symm
  | cons token path ih =>
    obtain ⟨child, first, later⟩ := Option.bind_eq_some_iff.mp found
    simp only [setAt, first]
    rw [ih later, setChild_child? first]

theorem setAt_of_none {v value : Json} (missed : v.at? path = none) : v.setAt path value = v := by
  induction path generalizing v with
  | nil => cases missed
  | cons token path ih =>
    rw [setAt]
    cases first : v.child? token with
    | none => rfl
    | some child =>
      have below : child.at? path = none := by rwa [at?, first, Option.bind_some] at missed
      simp only [ih below]
      exact setChild_child? first

theorem setAt_setAt (v first second : Json) (path : List String) :
    (v.setAt path first).setAt path second = v.setAt path second := by
  induction path generalizing v with
  | nil => rfl
  | cons token path ih =>
    cases found : v.child? token with
    | none => simp only [setAt, found]
    | some child =>
      simp only [setAt, found, child?_setChild found, setChild_setChild, ih]

theorem surface_at?_setAt {v value : Json} (outside : ¬ path <+: other) :
    ((v.setAt path value).at? other).map surface = (v.at? other).map surface := by
  induction path generalizing v other with
  | nil => exact absurd List.nil_prefix outside
  | cons token path ih =>
    rw [setAt]
    cases found : v.child? token with
    | none => rfl
    | some child =>
      cases other with
      | nil => exact congrArg some (surface_setChild v token _)
      | cons also other =>
        by_cases same : also = token
        · subst same
          have below : ¬ path <+: other :=
            fun leads => outside (List.cons_prefix_cons.mpr ⟨rfl, leads⟩)
          simp only [at?, child?_setChild found, found, Option.bind_some]
          exact ih below
        · simp only [at?, child?_setChild_of_ne same]

end Path

end OperatorKit.Json
