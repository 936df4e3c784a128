import Mathlib.Data.Option.Basic
import OperatorKit.Http.Base64

/-!
Base64 is read back as the bytes it was made from, whether the last group is full, two bytes or one.
-/

namespace OperatorKit.Base64

variable {n : Nat} {a b c : UInt8} {p q r s : Char} {rest : List Char}

theorem value?_digit (small : n < 64) : value? (digit n) = some n := by
  have all : ∀ n < 64, value? (digit n) = some n := by decide
  exact all n small

theorem digit_ne_pad (small : n < 64) : digit n ≠ '=' := by
  have all : ∀ n < 64, digit n ≠ '=' := by decide
  exact all n small

theorem toUInt8_of_eq (same : n = a.toNat) : n.toUInt8 = a := by
  rw [same]
  exact UInt8.ofNat_toNat

theorem decode?_group (full : s ≠ '=') : decode? (p :: q :: r :: s :: rest) = do
    let p ← value? p
    let q ← value? q
    let r ← value? r
    let s ← value? s
    return (p * 4 + q / 16).toUInt8 :: (q % 16 * 16 + r / 4).toUInt8 :: (r % 4 * 64 + s).toUInt8 ::
      (← decode? rest) := by
  rw [decode?]
  · intro _ same
    exact absurd same full
  · intro same
    exact absurd same full

theorem decode?_two (full : r ≠ '=') : decode? [p, q, r, '='] = do
    let p ← value? p
    let q ← value? q
    let r ← value? r
    guard (r % 4 = 0)
    return [(p * 4 + q / 16).toUInt8, (q % 16 * 16 + r / 4).toUInt8] := by
  rw [decode?]
  exact full

theorem decode?_encode (bytes : List UInt8) : decode? (encode bytes) = some bytes := by
  have byte (a : UInt8) : a.toNat < 256 := a.toNat_lt
  induction bytes using encode.induct with
  | case1 => rfl
  | case2 a =>
    have A := byte a
    have first : (a.toNat / 4 * 4 + a.toNat % 4 * 16 / 16).toUInt8 = a := toUInt8_of_eq (by omega)
    have d₁ : value? (digit (a.toNat / 4)) = _ := value?_digit (by omega)
    have d₂ : value? (digit (a.toNat % 4 * 16)) = _ := value?_digit (by omega)
    have filled : guard (a.toNat % 4 * 16 % 16 = 0) = some () := (Option.guard_eq_some' ()).mpr (by omega)
    rw [encode, decode?, d₁, d₂]
    change (guard (a.toNat % 4 * 16 % 16 = 0) >>= fun _ =>
      some [(a.toNat / 4 * 4 + a.toNat % 4 * 16 / 16).toUInt8]) = some [a]
    rw [filled, first]
    rfl
  | case3 a b =>
    have A := byte a
    have B := byte b
    have first : (a.toNat / 4 * 4 + (a.toNat % 4 * 16 + b.toNat / 16) / 16).toUInt8 = a :=
      toUInt8_of_eq (by omega)
    have second : ((a.toNat % 4 * 16 + b.toNat / 16) % 16 * 16 + b.toNat % 16 * 4 / 4).toUInt8 = b :=
      toUInt8_of_eq (by omega)
    have d₁ : value? (digit (a.toNat / 4)) = _ := value?_digit (by omega)
    have d₂ : value? (digit (a.toNat % 4 * 16 + b.toNat / 16)) = _ := value?_digit (by omega)
    have d₃ : value? (digit (b.toNat % 16 * 4)) = _ := value?_digit (by omega)
    have filled : guard (b.toNat % 16 * 4 % 4 = 0) = some () := (Option.guard_eq_some' ()).mpr (by omega)
    rw [encode, decode?_two (digit_ne_pad (by omega)), d₁, d₂, d₃]
    change (guard (b.toNat % 16 * 4 % 4 = 0) >>= fun _ =>
      some [(a.toNat / 4 * 4 + (a.toNat % 4 * 16 + b.toNat / 16) / 16).toUInt8,
        ((a.toNat % 4 * 16 + b.toNat / 16) % 16 * 16 + b.toNat % 16 * 4 / 4).toUInt8]) = some [a, b]
    rw [filled, first, second]
    rfl
  | case4 a b c rest ih =>
    have A := byte a
    have B := byte b
    have C := byte c
    have first : (a.toNat / 4 * 4 + (a.toNat % 4 * 16 + b.toNat / 16) / 16).toUInt8 = a :=
      toUInt8_of_eq (by omega)
    have second : ((a.toNat % 4 * 16 + b.toNat / 16) % 16 * 16 +
        (b.toNat % 16 * 4 + c.toNat / 64) / 4).toUInt8 = b := toUInt8_of_eq (by omega)
    have third : ((b.toNat % 16 * 4 + c.toNat / 64) % 4 * 64 + c.toNat % 64).toUInt8 = c :=
      toUInt8_of_eq (by omega)
    have d₁ : value? (digit (a.toNat / 4)) = _ := value?_digit (by omega)
    have d₂ : value? (digit (a.toNat % 4 * 16 + b.toNat / 16)) = _ := value?_digit (by omega)
    have d₃ : value? (digit (b.toNat % 16 * 4 + c.toNat / 64)) = _ := value?_digit (by omega)
    have d₄ : value? (digit (c.toNat % 64)) = _ := value?_digit (by omega)
    rw [encode, decode?_group (digit_ne_pad (by omega)), d₁, d₂, d₃, d₄, ih]
    simp only [Option.bind_eq_bind, Option.bind_some, first, second, third]
    rfl

example : ["f", "fo", "foo", "foob"].map (fun text => String.ofList (encode (Utf8.encode text))) =
    ["Zg==", "Zm8=", "Zm9v", "Zm9vYg=="] := by decide +kernel

end OperatorKit.Base64
