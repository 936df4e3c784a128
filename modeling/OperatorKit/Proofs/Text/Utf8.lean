import OperatorKit.Text.Symbol

/-!
The bytes of a text are read back as its characters. The lead byte tells how many bytes belong to a
character, so that no shorter reading takes the front of a longer one.
-/

namespace OperatorKit

namespace Symbol

variable {c : Char} {n : Nat} {a b d e : UInt8} {bytes : List UInt8}

theorem toNat_byte (small : n < 256) : (UInt8.ofNat n).toNat = n :=
  UInt8.toNat_ofNat_of_lt' small

theorem toNat_lt (c : Char) : c.toNat < 0x110000 := by
  rcases c.valid with low | ⟨_, high⟩
  · exact Nat.lt_trans low (by decide)
  · exact high

/-- What can be checked of each number below a bound holds of the characters below it. -/
theorem of_below {P : Char → Prop} (all : ∀ k < n, P (Char.ofNat k)) (low : c.toNat < n) : P c := by
  have here := all c.toNat low
  rwa [Char.ofNat_toNat] at here

theorem continuation?_ofNat (small : n < 64) : continuation? (UInt8.ofNat (n + 128)) = some n := by
  rw [continuation?, toNat_byte (by omega), if_pos (by omega)]
  exact congrArg some (by omega)

theorem scalar?_toNat {least : Nat} (long : least ≤ c.toNat) : scalar? least c.toNat = some c := by
  rw [scalar?, if_pos ⟨long, c.valid⟩, Char.ofNat_toNat]

theorem twoByte?_eq_none (other : a.toNat / 32 ≠ 6) : twoByte? a b = none := by
  have refused : (guard (a.toNat / 32 = 6) : Option Unit) = none := if_neg other
  rw [twoByte?, refused]
  rfl

theorem threeByte?_eq_none (other : a.toNat / 16 ≠ 14) : threeByte? a b d = none := by
  have refused : (guard (a.toNat / 16 = 14) : Option Unit) = none := if_neg other
  rw [threeByte?, refused]
  rfl

section Lead

variable {low middle high : Nat}

theorem twoByte?_ofNat (lead : a.toNat = n + 192) (small : n < 32) (digit : low < 64) :
    twoByte? a (UInt8.ofNat (low + 128)) = scalar? 0x80 (n * 64 + low) := by
  have mark : (guard ((n + 192) / 32 = 6) : Option Unit) = some () := if_pos (by omega)
  have rest : (n + 192) % 32 = n := by omega
  rw [twoByte?, lead, rest, mark, continuation?_ofNat digit]
  rfl

theorem threeByte?_ofNat (lead : a.toNat = n + 224) (small : n < 16) (digit : low < 64)
    (digit' : middle < 64) :
    threeByte? a (UInt8.ofNat (middle + 128)) (UInt8.ofNat (low + 128)) =
      scalar? 0x800 ((n * 64 + middle) * 64 + low) := by
  have mark : (guard ((n + 224) / 16 = 14) : Option Unit) = some () := if_pos (by omega)
  have rest : (n + 224) % 16 = n := by omega
  rw [threeByte?, lead, rest, mark, continuation?_ofNat digit, continuation?_ofNat digit']
  rfl

theorem fourByte?_ofNat (lead : a.toNat = n + 240) (small : n < 8) (digit : low < 64)
    (digit' : middle < 64) (digit'' : high < 64) :
    fourByte? a (UInt8.ofNat (high + 128)) (UInt8.ofNat (middle + 128)) (UInt8.ofNat (low + 128)) =
      scalar? 0x10000 (((n * 64 + high) * 64 + middle) * 64 + low) := by
  have mark : (guard ((n + 240) / 8 = 30) : Option Unit) = some () := if_pos (by omega)
  have rest : (n + 240) % 8 = n := by omega
  rw [fourByte?, lead, rest, mark, continuation?_ofNat digit, continuation?_ofNat digit',
    continuation?_ofNat digit'']
  rfl

end Lead

section Front

theorem front_of_ascii (below : a.toNat < 0x80) :
    front a bytes = (char (Char.ofNat a.toNat), 0) := by
  unfold front
  rw [if_pos below]

theorem front_of_twoByte? (above : ¬ a.toNat < 0x80) (found : twoByte? a b = some c) :
    front a (b :: bytes) = (char c, 1) := by
  simp only [front, if_neg above, found]

theorem front_of_threeByte? (above : ¬ a.toNat < 0x80) (longer : twoByte? a b = none)
    (found : threeByte? a b d = some c) : front a (b :: d :: bytes) = (char c, 2) := by
  simp only [front, if_neg above, longer, found]

theorem front_of_fourByte? (above : ¬ a.toNat < 0x80) (longer : twoByte? a b = none)
    (longest : threeByte? a b d = none) (found : fourByte? a b d e = some c) :
    front a (b :: d :: e :: bytes) = (char c, 3) := by
  simp only [front, if_neg above, longer, longest, found]

end Front

theorem utf8EncodeChar_eq (c : Char) : String.utf8EncodeChar c =
    if c.toNat ≤ 0x7f then [UInt8.ofNat c.toNat]
    else if c.toNat ≤ 0x7ff then
      [UInt8.ofNat (c.toNat / 64 % 32 + 192), UInt8.ofNat (c.toNat % 64 + 128)]
    else if c.toNat ≤ 0xffff then
      [UInt8.ofNat (c.toNat / 4096 % 16 + 224), UInt8.ofNat (c.toNat / 64 % 64 + 128),
        UInt8.ofNat (c.toNat % 64 + 128)]
    else
      [UInt8.ofNat (c.toNat / 262144 % 8 + 240), UInt8.ofNat (c.toNat / 4096 % 64 + 128),
        UInt8.ofNat (c.toNat / 64 % 64 + 128), UInt8.ofNat (c.toNat % 64 + 128)] :=
  rfl

theorem cut_utf8EncodeChar (c : Char) (bytes : List UInt8) :
    cut 0 (String.utf8EncodeChar c ++ bytes) = char c :: cut 0 bytes := by
  have bound := toNat_lt c
  have digit (n : Nat) : n % 64 < 64 := Nat.mod_lt n (by decide)
  rw [utf8EncodeChar_eq]
  split
  · have whole : front (UInt8.ofNat c.toNat) bytes = (char c, 0) := by
      have byte : (UInt8.ofNat c.toNat).toNat = c.toNat := toNat_byte (by omega)
      rw [front_of_ascii (by omega), byte, Char.ofNat_toNat]
    rw [List.cons_append, List.nil_append, cut, whole]
  split
  · have lead : (UInt8.ofNat (c.toNat / 64 % 32 + 192)).toNat = c.toNat / 64 + 192 := by
      rw [toNat_byte (by omega)]
      omega
    have sum : c.toNat / 64 * 64 + c.toNat % 64 = c.toNat := by omega
    have found := twoByte?_ofNat lead (by omega) (digit c.toNat)
    rw [sum, scalar?_toNat (by omega)] at found
    simp only [List.cons_append, List.nil_append, cut, front_of_twoByte? (by omega) found]
  split
  · have lead : (UInt8.ofNat (c.toNat / 4096 % 16 + 224)).toNat = c.toNat / 4096 + 224 := by
      rw [toNat_byte (by omega)]
      omega
    have sum : (c.toNat / 4096 * 64 + c.toNat / 64 % 64) * 64 + c.toNat % 64 = c.toNat := by omega
    have found := threeByte?_ofNat lead (by omega) (digit c.toNat) (digit (c.toNat / 64))
    rw [sum, scalar?_toNat (by omega)] at found
    simp only [List.cons_append, List.nil_append, cut,
      front_of_threeByte? (by omega) (twoByte?_eq_none (by omega)) found]
  · have lead : (UInt8.ofNat (c.toNat / 262144 % 8 + 240)).toNat = c.toNat / 262144 + 240 := by
      rw [toNat_byte (by omega)]
      omega
    have sum : ((c.toNat / 262144 * 64 + c.toNat / 4096 % 64) * 64 + c.toNat / 64 % 64) * 64 +
        c.toNat % 64 = c.toNat := by omega
    have found := fourByte?_ofNat lead (by omega) (digit c.toNat) (digit (c.toNat / 64))
      (digit (c.toNat / 4096))
    rw [sum, scalar?_toNat (by omega)] at found
    simp only [List.cons_append, List.nil_append, cut,
      front_of_fourByte? (by omega) (twoByte?_eq_none (by omega)) (threeByte?_eq_none (by omega)) found]

theorem ofBytes_flatMap (text : List Char) :
    ofBytes (text.flatMap String.utf8EncodeChar) = text.map char := by
  induction text with
  | nil => rfl
  | cons c rest ih =>
    rw [List.flatMap_cons, ofBytes, cut_utf8EncodeChar, List.map_cons, ← ih]
    rfl

end Symbol

namespace Utf8

theorem encode_eq_flatMap (text : String) :
    encode text = text.toList.flatMap String.utf8EncodeChar := by
  rw [encode, String.toUTF8, ← String.utf8Encode_toList]
  exact List.toList_data_toByteArray

theorem ofBytes_encode (text : String) : Symbol.ofBytes (encode text) = Symbol.ofString text := by
  rw [encode_eq_flatMap, Symbol.ofBytes_flatMap, Symbol.ofString]

theorem characters?_map_char (text : List Char) : characters? (text.map .char) = some text := by
  induction text with
  | nil => rfl
  | cons c rest ih => rw [List.map_cons, characters?, ih, Option.map_some]

theorem decode?_encode (text : String) : decode? (encode text) = some text := by
  rw [decode?, ofBytes_encode, Symbol.ofString, characters?_map_char, Option.map_some,
    String.ofList_toList]

end Utf8

end OperatorKit
