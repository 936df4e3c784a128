import OperatorKit.Proofs.Text.Utf8
import OperatorKit.Url.Percent

/-!
What a percent-encoded segment of a path is read as. A percent sign is not encoded there, so that a
text which has one with two digits behind it is read as something else than itself; every other text
is read as itself.
-/

namespace OperatorKit

namespace Digits

theorem lt_of_value? {c : Char} {x : Nat} (digit : value? c = some x) : c.toNat < 0x80 := by
  have below {d : Char} (bound : d.toNat < 0x80) (within : c ≤ d) : c.toNat < 0x80 :=
    Nat.lt_of_le_of_lt (Char.le_def.mp within) bound
  unfold value? at digit
  split at digit
  · rename_i within
    exact below (by decide) within.2
  · split at digit
    · rename_i within
      exact below (by decide) within.2
    · split at digit
      · rename_i within
        exact below (by decide) within.2
      · cases digit

end Digits

namespace Percent

inductive HasEscape : List Char → Prop where
  | here {c d : Char} {rest : List Char} {x y : Nat} : Digits.value? c = some x →
      Digits.value? d = some y → HasEscape ('%' :: c :: d :: rest)
  | there {c : Char} {rest : List Char} : HasEscape rest → HasEscape (c :: rest)

def unescaped : List Char → List UInt8
  | [] => []
  | '%' :: c :: d :: rest =>
    match Digits.value? c, Digits.value? d with
    | some x, some y => (x * 16 + y).toUInt8 :: unescaped rest
    | _, _ => 37 :: unescaped (c :: d :: rest)
  | c :: rest => String.utf8EncodeChar c ++ unescaped rest

def bytes (text : List Char) : List UInt8 :=
  text.flatMap String.utf8EncodeChar

variable {c d : Char} {text rest : List Char} {a b : UInt8} {x y n : Nat}

@[simp] theorem bytes_cons (c : Char) (text : List Char) :
    bytes (c :: text) = String.utf8EncodeChar c ++ bytes text := rfl

@[simp] theorem bytes_append (front back : List Char) :
    bytes (front ++ back) = bytes front ++ bytes back := by
  simp [bytes]

theorem utf8EncodeChar_of_ascii (ascii : c.toNat < 0x80) :
    String.utf8EncodeChar c = [UInt8.ofNat c.toNat] := by
  rw [Symbol.utf8EncodeChar_eq, if_pos (by omega)]

theorem length_unescaped_le (text : List Char) : (unescaped text).length ≤ (bytes text).length := by
  fun_induction unescaped text with
  | case1 => exact Nat.le_refl _
  | case2 c d rest x y digit' digit ih =>
    simp only [bytes_cons, List.length_append, List.length_cons, String.length_utf8EncodeChar]
    have one := Char.utf8Size_pos '%'
    omega
  | case3 c d rest _ ih =>
    have one : (String.utf8EncodeChar '%').length = 1 := rfl
    rw [bytes_cons, List.length_append, one, List.length_cons]
    omega
  | case4 c rest _ ih =>
    rw [bytes_cons, List.length_append, List.length_append]
    omega

theorem unescaped_eq_bytes_iff (text : List Char) :
    unescaped text = bytes text ↔ ¬ HasEscape text := by
  fun_induction unescaped text with
  | case1 =>
    refine iff_of_true rfl ?_
    rintro ⟨⟩
  | case2 c d rest x y digit' digit ih =>
    refine iff_of_false (fun same => ?_) (fun none => none (.here digit digit'))
    have shorter := length_unescaped_le rest
    have long := congrArg List.length same
    simp only [bytes_cons, List.length_append, List.length_cons, String.length_utf8EncodeChar] at long
    have one := Char.utf8Size_pos '%'
    have one' := Char.utf8Size_pos c
    have one'' := Char.utf8Size_pos d
    omega
  | case3 c d rest none ih =>
    have sign : String.utf8EncodeChar '%' = [37] := rfl
    rw [bytes_cons, sign, List.singleton_append, List.cons.injEq, eq_self, true_and, ih]
    refine not_congr ⟨.there, fun escape => ?_⟩
    cases escape with
    | here digit digit' => exact absurd digit' (none _ _ digit)
    | there escape => exact escape
  | case4 c rest apart ih =>
    rw [bytes_cons, List.append_cancel_left_eq, ih]
    refine not_congr ⟨.there, fun escape => ?_⟩
    cases escape with
    | here digit digit' => exact absurd rfl (apart _ _ _ rfl)
    | there escape => exact escape

section Encoded

def encodedBytes (text : List Char) : List UInt8 :=
  bytes (text.flatMap (encodeChar inPath))

theorem encodedBytes_cons (c : Char) (text : List Char) :
    encodedBytes (c :: text) = bytes (encodeChar inPath c) ++ encodedBytes text := by
  simp [encodedBytes]

theorem utf8EncodeChar_upper (low : n < 16) :
    String.utf8EncodeChar (Digits.upper n) = [UInt8.ofNat (Digits.upper n).toNat] ∧
      hexByte? (UInt8.ofNat (Digits.upper n).toNat) = some n := by
  have all : ∀ n < 16, String.utf8EncodeChar (Digits.upper n) =
      [UInt8.ofNat (Digits.upper n).toNat] ∧
        hexByte? (UInt8.ofNat (Digits.upper n).toNat) = some n := by decide
  exact all n low

theorem decode_ofByte (b : UInt8) (rest : List UInt8) :
    decode (bytes (ofByte b) ++ rest) = b :: decode rest := by
  have small : b.toNat < 256 := b.toNat_lt
  obtain ⟨high, digit⟩ := utf8EncodeChar_upper (n := b.toNat / 16) (by omega)
  obtain ⟨low, digit'⟩ := utf8EncodeChar_upper (n := b.toNat % 16) (Nat.mod_lt _ (by decide))
  have sign : String.utf8EncodeChar '%' = [37] := rfl
  have whole : b.toNat / 16 * 16 + b.toNat % 16 = b.toNat := Nat.div_add_mod' _ _
  simp [ofByte, bytes, sign, high, low, decode, digit, digit', whole]

theorem decode_flatMap_ofByte (bs rest : List UInt8) :
    decode (bytes (bs.flatMap ofByte) ++ rest) = bs ++ decode rest := by
  induction bs with
  | nil => rfl
  | cons b bs ih =>
    rw [List.flatMap_cons, bytes_append, List.append_assoc, decode_ofByte, ih, List.cons_append]

theorem decode_cons {bs : List UInt8}
    (plain : a = 37 → ∀ b c rest, bs = b :: c :: rest → hexByte? b = none ∨ hexByte? c = none) :
    decode (a :: bs) = a :: decode bs := by
  match bs with
  | [] | [_] => rfl
  | b :: c :: rest =>
    rw [decode]
    split
    · rename_i digit digit'
      split at digit
      · rename_i sign
        rcases plain sign b c rest rfl with none | none
        · cases none.symm.trans digit
        · cases none.symm.trans digit'
      · cases digit
    · rfl

theorem hexByte?_ofNat (ascii : c.toNat < 0x80) :
    hexByte? (UInt8.ofNat c.toNat) = Digits.value? c := by
  rw [hexByte?, Symbol.toNat_byte (by omega), Char.ofNat_toNat]

theorem inPath_of_digit (digit : Digits.value? c = some x) : inPath c = false := by
  have here := Symbol.of_below (P := fun c => (Digits.value? c).isSome = true → inPath c = false)
    (by decide) (Digits.lt_of_value? digit)
  exact here (by rw [digit]; rfl)

theorem exists_byte (c : Char) : ∃ b rest, String.utf8EncodeChar c = b :: rest := by
  apply List.exists_cons_of_length_pos
  rw [String.length_utf8EncodeChar]
  exact Char.utf8Size_pos c

theorem encodedBytes_of_digit (digit : Digits.value? c = some x) (text : List Char) :
    encodedBytes (c :: text) = UInt8.ofNat c.toNat :: encodedBytes text ∧
      hexByte? (UInt8.ofNat c.toNat) = some x := by
  have ascii := Digits.lt_of_value? digit
  have stays : encodeChar inPath c = [c] := by
    rw [encodeChar, inPath_of_digit digit, if_pos (by simp [ascii])]
  refine ⟨?_, (hexByte?_ofNat ascii).trans digit⟩
  rw [encodedBytes_cons, stays, bytes_cons, utf8EncodeChar_of_ascii ascii]
  rfl

theorem encodedBytes_of_other (other : Digits.value? c = none) (text : List Char) :
    ∃ b rest, encodedBytes (c :: text) = b :: rest ∧ hexByte? b = none := by
  rw [encodedBytes_cons, encodeChar]
  split
  · rename_i plain
    have ascii : c.toNat < 0x80 := by
      simp only [Bool.and_eq_true, decide_eq_true_eq] at plain
      exact plain.1
    refine ⟨UInt8.ofNat c.toNat, encodedBytes text, ?_, (hexByte?_ofNat ascii).trans other⟩
    rw [bytes_cons, utf8EncodeChar_of_ascii ascii]
    rfl
  · obtain ⟨b, rest, first⟩ := exists_byte c
    rw [first]
    exact ⟨37, _, rfl, by decide⟩

theorem digit_of_encodedBytes {bs : List UInt8} (starts : encodedBytes text = b :: bs)
    (digit : hexByte? b = some x) :
    ∃ c rest, text = c :: rest ∧ Digits.value? c = some x ∧ encodedBytes rest = bs := by
  cases text with
  | nil => cases starts
  | cons c rest =>
    cases value : Digits.value? c with
    | none =>
      obtain ⟨b', _, first, none⟩ := encodedBytes_of_other value rest
      cases first.symm.trans starts
      cases none.symm.trans digit
    | some n =>
      obtain ⟨first, same⟩ := encodedBytes_of_digit value rest
      cases first.symm.trans starts
      exact ⟨c, rest, rfl, value.trans (same.symm.trans digit), rfl⟩

theorem decode_sign (apart : ∀ c d rest x y, text = c :: d :: rest → Digits.value? c = some x →
    Digits.value? d ≠ some y) :
    decode (encodedBytes ('%' :: text)) = 37 :: decode (encodedBytes text) := by
  have sign : bytes (encodeChar inPath '%') = [37] := rfl
  rw [encodedBytes_cons, sign, List.singleton_append]
  apply decode_cons
  intro _ b b' bs starts
  cases first : hexByte? b with
  | none => exact Or.inl rfl
  | some x =>
    cases second : hexByte? b' with
    | none => exact Or.inr rfl
    | some y =>
      obtain ⟨c, rest, rfl, digit, starts⟩ := digit_of_encodedBytes starts first
      obtain ⟨d, rest, rfl, digit', _⟩ := digit_of_encodedBytes starts second
      exact absurd digit' (apart c d rest x y rfl digit)

theorem decode_other (other : c ≠ '%') (text : List Char) :
    decode (encodedBytes (c :: text)) = String.utf8EncodeChar c ++ decode (encodedBytes text) := by
  rw [encodedBytes_cons, encodeChar]
  split
  · rename_i plain
    have ascii : c.toNat < 0x80 := by
      simp only [Bool.and_eq_true, decide_eq_true_eq] at plain
      exact plain.1
    rw [bytes_cons, utf8EncodeChar_of_ascii ascii]
    apply decode_cons
    intro same
    have code : c.toNat = 37 := by
      rw [← Symbol.toNat_byte (n := c.toNat) (by omega), same]
      rfl
    exact absurd (Char.toNat_inj.mp code) other
  · exact decode_flatMap_ofByte _ _

theorem decode_encodedBytes (text : List Char) : decode (encodedBytes text) = unescaped text := by
  fun_induction unescaped text with
  | case1 => rfl
  | case2 c d rest x y digit' digit ih =>
    have sign : bytes (encodeChar inPath '%') = [37] := rfl
    obtain ⟨first, value⟩ := encodedBytes_of_digit digit (d :: rest)
    obtain ⟨second, value'⟩ := encodedBytes_of_digit digit' rest
    rw [encodedBytes_cons, sign, first, second, List.singleton_append, decode]
    simp only [if_pos, value, value', ih]
  | case3 c d rest apart ih =>
    rw [decode_sign, ih]
    rintro c d rest x y ⟨⟩ digit digit'
    exact apart x y digit digit'
  | case4 c rest apart ih =>
    by_cases sign : c = '%'
    · subst sign
      rw [decode_sign, ih]
      · rfl
      · intro c d rest' x y same
        exact absurd same (apart c d rest' rfl)
    · rw [decode_other sign, ih]

/-- An encoded text is read as itself if and only if it has no escape. -/
theorem decode_encode_eq_iff (text : String) :
    decode (Utf8.encode (encode inPath text.toList)) = Utf8.encode text ↔ ¬ HasEscape text.toList := by
  rw [← unescaped_eq_bytes_iff, ← decode_encodedBytes, Utf8.encode_eq_flatMap, encode,
    String.toList_ofList, Utf8.encode_eq_flatMap]
  rfl

end Encoded

end Percent

end OperatorKit
