import OperatorKit.Json.Quoted
import OperatorKit.Json.Text

/-!
What is written between quotes is read back, whatever characters a text has: each of them is written so
that one step of the reader takes it up, as it stands or as an escape.
-/

namespace OperatorKit.Json

variable {n fuel : Nat} {c : Char} {text : List Char} {rest : List Symbol}

theorem hex?_hexDigit (small : n < 16) : hex? (.char (hexDigit n)) = some n := by
  have all : ∀ n < 16, hex? (.char (hexDigit n)) = some n := by decide
  exact all n small

theorem unicodeEscape_control (control : c.toNat < 32) : unicodeEscape (.char '0' :: .char '0' ::
    .char (hexDigit (c.toNat / 16)) :: .char (hexDigit (c.toNat % 16)) :: rest) = .ok (c, rest) := by
  have zero : hex? (.char '0') = some 0 := rfl
  have sum : ((0 * 16 + 0) * 16 + c.toNat / 16) * 16 + c.toNat % 16 = c.toNat := by omega
  have digits : fourHex (.char '0' :: .char '0' :: .char (hexDigit (c.toNat / 16)) ::
      .char (hexDigit (c.toNat % 16)) :: rest) = .ok (c.toNat, rest) := by
    simp only [fourHex, zero, hex?_hexDigit (show c.toNat / 16 < 16 by omega),
      hex?_hexDigit (Nat.mod_lt c.toNat (by decide : 0 < 16)), sum]
  have trailing : isTrailing c.toNat = false := by
    simp only [isTrailing, Bool.and_eq_false_iff, decide_eq_false_iff_not]
    omega
  have leading : isLeading c.toNat = false := by
    simp only [isLeading, Bool.and_eq_false_iff, decide_eq_false_iff_not]
    omega
  simp only [unicodeEscape, digits, trailing, leading, Bool.false_eq_true, if_false,
    Char.ofNat_toNat]

/-- A character is written as an escape that stands for it, or as itself if it needs none. -/
theorem escape_cases (c : Char) :
    (∃ more, escape c = '\\' :: more ∧
      ∀ input, escaped (more.map .char ++ input) = .ok (c, input)) ∨
    (escape c = [c] ∧ c ≠ '"' ∧ c ≠ '\\' ∧ ¬ c.toNat < 32) := by
  unfold escape
  split
  · rename_i same
    subst same
    exact Or.inl ⟨['"'], rfl, fun _ => rfl⟩
  split
  · rename_i same
    subst same
    exact Or.inl ⟨['\\'], rfl, fun _ => rfl⟩
  split
  · rename_i same
    subst same
    exact Or.inl ⟨['n'], rfl, fun _ => rfl⟩
  split
  · rename_i same
    subst same
    exact Or.inl ⟨['r'], rfl, fun _ => rfl⟩
  split
  · rename_i same
    subst same
    exact Or.inl ⟨['t'], rfl, fun _ => rfl⟩
  split
  · rename_i same
    subst same
    exact Or.inl ⟨['b'], rfl, fun _ => rfl⟩
  split
  · rename_i same
    subst same
    exact Or.inl ⟨['f'], rfl, fun _ => rfl⟩
  split
  · rename_i control
    exact Or.inl ⟨_, rfl, fun input => unicodeEscape_control control⟩
  · rename_i quote backslash _ _ _ _ _ control
    exact Or.inr ⟨rfl, quote, backslash, control⟩

theorem quotedChars_escape (c : Char) (fuel : Nat) (input : List Symbol) :
    quotedChars none (fuel + 1) ((escape c).map .char ++ input) =
      (quotedChars none fuel input).map fun (cs, rest) => (c :: cs, rest) := by
  rcases escape_cases c with ⟨more, written, read⟩ | ⟨written, quote, backslash, above⟩
  · rw [written, List.map_cons, List.cons_append, quotedChars, if_neg (by decide), if_pos rfl,
      read input]
    dsimp only
    cases quotedChars none fuel input <;> rfl
  · rw [written, List.map_singleton, List.singleton_append, quotedChars, if_neg quote,
      if_neg backslash, if_neg above]
    cases quotedChars none fuel input <;> rfl

theorem quotedChars_flatMap (enough : text.length < fuel) :
    quotedChars none fuel ((text.flatMap escape).map .char ++ .char '"' :: rest) =
      .ok (text, rest) := by
  induction text generalizing fuel with
  | nil =>
    obtain ⟨fuel, rfl⟩ := Nat.exists_eq_succ_of_ne_zero (Nat.pos_iff_ne_zero.mp enough)
    rfl
  | cons c text ih =>
    cases fuel with
    | zero => cases enough
    | succ fuel =>
      rw [List.flatMap_cons, List.map_append, List.append_assoc, quotedChars_escape,
        ih (Nat.lt_of_succ_lt_succ enough)]
      rfl

theorem length_le_flatMap_escape (text : List Char) :
    text.length ≤ (text.flatMap escape).length := by
  induction text with
  | nil => exact Nat.le_refl _
  | cons c text ih =>
    have filled : 1 ≤ (escape c).length := by
      rcases escape_cases c with ⟨more, written, _⟩ | ⟨written, _⟩ <;> rw [written] <;> simp
    rw [List.flatMap_cons, List.length_append, List.length_cons]
    omega

theorem quoted_append (s : String) (rest : List Symbol) : (quoted s).map .char ++ rest =
    .char '"' :: ((s.toList.flatMap escape).map .char ++ .char '"' :: rest) := by
  simp [quoted]

/-- A text in quotes is read as itself, behind its first quote. -/
theorem stringBody_quoted (s : String) (rest : List Symbol) :
    stringBody ((s.toList.flatMap escape).map .char ++ .char '"' :: rest) = .ok (s, rest) := by
  have enough : s.toList.length <
      ((s.toList.flatMap escape).map Symbol.char ++ .char '"' :: rest).length + 1 := by
    have long := length_le_flatMap_escape s.toList
    rw [List.length_append, List.length_map, List.length_cons]
    omega
  rw [stringBody, quotedChars_flatMap enough]
  exact congrArg Except.ok (congrArg (·, rest) String.ofList_toList)

end OperatorKit.Json
