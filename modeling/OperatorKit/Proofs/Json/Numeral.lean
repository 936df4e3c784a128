import OperatorKit.Json.Numeral

/-!
Whole numbers are read back from their decimal digits, up to the largest that 64 bits hold. What follows
the digits must not go on with the numeral.
-/

namespace OperatorKit.Json

def EndsNumeral (rest : List Symbol) : Prop :=
  ∀ s ∈ rest.head?, isDigit s = false ∧ s ≠ .char '.' ∧ s ≠ .char 'e' ∧ s ≠ .char 'E'

variable {n d limit : Nat} {rest xs ys : List Symbol}

theorem digit?_digitChar (small : d < 10) : digit? (.char (Nat.digitChar d)) = some d := by
  have all : ∀ d < 10, digit? (.char (Nat.digitChar d)) = some d := by decide
  exact all d small

theorem isDigit_of_mem_toDigits {s : Symbol} (member : s ∈ (Nat.toDigits 10 n).map .char) :
    isDigit s = true := by
  obtain ⟨c, written, rfl⟩ := List.mem_map.mp member
  have digit : c.isDigit = true := Nat.isDigit_of_mem_toDigits (by decide) (by decide) written
  rw [isDigit, digit?, if_pos digit]
  rfl

theorem toDigits_induct {motive : Nat → List Char → Prop}
    (one : ∀ d, d < 10 → motive d [Nat.digitChar d])
    (more : ∀ n d, 0 < n → d < 10 → motive n (Nat.toDigits 10 n) →
      motive (n * 10 + d) (Nat.toDigits 10 n ++ [Nat.digitChar d])) (n : Nat) :
    motive n (Nat.toDigits 10 n) := by
  induction n using Nat.strongRecOn with
  | ind n ih =>
    by_cases small : n < 10
    · rw [Nat.toDigits_of_lt_base small]
      exact one n small
    · have next := more (n / 10) (n % 10) (by omega) (Nat.mod_lt n (by decide)) (ih (n / 10) (by omega))
      rw [Nat.toDigits_of_base_le (by decide) (by omega)]
      rwa [Nat.mul_comm, Nat.div_add_mod] at next

theorem gather_append {k m : Nat} (all : gather limit k xs = (m, 0)) :
    gather limit k (xs ++ ys) = gather limit m ys := by
  induction xs generalizing k with
  | nil =>
    cases all
    rfl
  | cons x rest ih =>
    rw [gather] at all
    split at all
    · rename_i fits
      rw [List.cons_append, gather, if_pos fits]
      exact ih all
    · cases all

theorem gather_toDigits (fits : n ≤ limit) :
    gather limit 0 ((Nat.toDigits 10 n).map .char) = (n, 0) := by
  have value {d : Nat} (small : d < 10) : digitValue (.char (Nat.digitChar d)) = d := by
    rw [digitValue, digit?_digitChar small]
    rfl
  revert fits
  refine toDigits_induct (motive := fun n digits => n ≤ limit →
    gather limit 0 (digits.map .char) = (n, 0)) ?_ ?_ n
  · intro d small fits
    rw [List.map_singleton, gather, value small, Nat.zero_mul, Nat.zero_add, if_pos fits, gather]
  · intro n d _ small ih fits
    rw [List.map_append, gather_append (ih (by omega)), List.map_singleton, gather, value small,
      if_pos fits, gather]

theorem zero_of_leading {digits : List Char} (leading : Nat.toDigits 10 n = '0' :: digits) :
    digits = [] := by
  have zero {d : Nat} (small : d < 10) (same : Nat.digitChar d = '0') : d = 0 := by
    have all : ∀ d < 10, Nat.digitChar d = '0' → d = 0 := by decide
    exact all d small same
  have first : n = 0 := by
    refine toDigits_induct (motive := fun n written => written.head? = some '0' → n = 0) ?_ ?_ n ?_
    · exact fun d small same => zero small (Option.some.inj same)
    · intro n d positive _ ih same
      obtain ⟨c, more, written⟩ := List.exists_cons_of_ne_nil (Nat.toDigits_ne_nil (n := n) (b := 10))
      rw [written] at ih same
      exact absurd (ih same) (Nat.pos_iff_ne_zero.mp positive)
    · rw [leading]
      rfl
  rw [first, Nat.toDigits_zero] at leading
  exact (List.cons.inj leading).2.symm

theorem digits_append (all : ∀ s ∈ xs, isDigit s = true) (ends : EndsNumeral rest) :
    leadingDigits (xs ++ rest) = xs ∧ afterDigits (xs ++ rest) = rest := by
  rw [leadingDigits, afterDigits, List.takeWhile_append_of_pos all, List.dropWhile_append_of_pos all]
  cases rest with
  | nil => exact ⟨List.append_nil xs, rfl⟩
  | cons s rest => simp [(ends s rfl).1]

/-- Digits that 64 bits hold are read as the number they were made from. -/
theorem numeral_toDigits (positive : Bool) (fits : n ≤ maxUnsigned) (ends : EndsNumeral rest) :
    numeral positive ((Nat.toDigits 10 n).map .char ++ rest) = .ok (integer positive n, rest) := by
  have digits : ∀ s ∈ (Nat.toDigits 10 n).map Symbol.char, isDigit s = true :=
    fun _ => isDigit_of_mem_toDigits
  obtain ⟨leading, after⟩ := digits_append digits ends
  have gathered := gather_toDigits fits
  obtain ⟨c, more, written⟩ := List.exists_cons_of_ne_nil (Nat.toDigits_ne_nil (n := n) (b := 10))
  have single : ¬ (Symbol.char c = .char '0' ∧ (more.map Symbol.char ++ rest).head?.any isDigit = true) := by
    rintro ⟨same, goes⟩
    cases same
    rw [zero_of_leading written, List.map_nil, List.nil_append] at goes
    cases rest with
    | nil => cases goes
    | cons s rest => cases (ends s rfl).1.symm.trans goes
  rw [written, List.map_cons] at digits gathered
  rw [written, List.map_cons, List.cons_append] at leading after ⊢
  rw [numeral, if_pos (digits _ List.mem_cons_self), if_neg single, leading, gathered, after]
  dsimp only
  split
  · exact absurd rfl (ends _ rfl).2.1
  · exact absurd rfl (ends _ rfl).2.2.1
  · exact absurd rfl (ends _ rfl).2.2.2
  · exact if_pos rfl

end OperatorKit.Json
