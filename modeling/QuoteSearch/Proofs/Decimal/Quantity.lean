import QuoteSearch.Decimal.Quantity
import Mathlib

/-! # Floats as numbers

What is decoded from the bits of a float agrees with what Lean's model of floats unpacks, and a scaled
whole number is rounded down like the fraction that it stands for.
-/

namespace QuoteSearch.Decimal

open Float.Model (UnpackedFloat)
open Float.Model.UnpackedFloat (unpackMantissa unpackExponent unpackSign)

def Quantity.ofUnpacked : UnpackedFloat → Quantity
  | .notANumber => .notANumber
  | .infinity sign => .infinite (sign == .negative)
  | .zero sign => .finite (sign == .negative) 0 leastExponent
  | .finite sign significand exponent _ => .finite (sign == .negative) significand exponent

section Bits

variable (b : BitVec 64)

theorem toNat_unpackMantissa :
    (@unpackMantissa .binary64 b).toNat = b.toNat % Nat.pow 2 fractionBits := by
  change (b.toNat >>> 0) % 2 ^ 52 = _
  rw [Nat.shiftRight_zero]
  rfl

theorem toNat_unpackExponent :
    (@unpackExponent .binary64 b).toNat = b.toNat / Nat.pow 2 fractionBits % Nat.pow 2 11 := by
  change (b.toNat >>> 52) % 2 ^ 11 = _
  rw [Nat.shiftRight_eq_div_pow]
  rfl

theorem toNat_unpackSign : (@unpackSign .binary64 b).toNat = b.toNat / Nat.pow 2 63 % 2 := by
  change (b.toNat >>> 63) % 2 ^ 1 = _
  rw [Nat.shiftRight_eq_div_pow]

theorem negative_ofBitVec : (UnpackedFloat.Sign.ofBitVec (@unpackSign .binary64 b) == .negative) =
    (b.toNat / Nat.pow 2 63 % 2 == 1) := by
  rw [← toNat_unpackSign]
  generalize @unpackSign .binary64 b = sign
  revert sign
  decide

theorem toNat_withLeadingDigit (mantissa : BitVec 52) :
    (1#1 ++ mantissa).toNat = Nat.pow 2 fractionBits + mantissa.toNat := by
  change 2 ^ 52 ||| mantissa.toNat = 2 ^ 52 + mantissa.toNat
  rw [Nat.or_comm, Nat.or_two_pow_eq_add_of_lt mantissa.isLt, Nat.add_comm]

end Bits

theorem quantity_eq (x : Float) : quantity x = .ofUnpacked x.toModel.unpack := by
  change quantity x = .ofUnpacked (UnpackedFloat.unpack .binary64 x.toBits.toBitVec)
  have hMantissa := toNat_unpackMantissa x.toBits.toBitVec
  have hExponent := toNat_unpackExponent x.toBits.toBitVec
  have hSign := negative_ofBitVec x.toBits.toBitVec
  rw [UInt64.toNat_toBitVec] at hMantissa hExponent hSign
  have hMost : (@unpackExponent .binary64 x.toBits.toBitVec).toNat = 2047 ↔
      @unpackExponent .binary64 x.toBits.toBitVec = -1#11 := BitVec.toNat_inj (y := -1#11)
  have hLeast : (@unpackExponent .binary64 x.toBits.toBitVec).toNat = 0 ↔
      @unpackExponent .binary64 x.toBits.toBitVec = 0#11 := BitVec.toNat_inj (y := 0#11)
  have hZero : (@unpackMantissa .binary64 x.toBits.toBitVec).toNat = 0 ↔
      @unpackMantissa .binary64 x.toBits.toBitVec = 0#52 := BitVec.toNat_inj (y := 0#52)
  rw [quantity, ← hMantissa, ← hExponent, ← hSign, UnpackedFloat.unpack]
  simp only [hMost, hLeast, hZero]
  split_ifs with hTop hNone hBottom hNone
  · rfl
  · rfl
  · rw [Quantity.ofUnpacked, hZero.mpr hNone]
  · rw [Quantity.ofUnpacked, hLeast.mpr hBottom]
    rfl
  · have hPos := mt hLeast.mp hBottom
    have hScale : leastExponent + ((@unpackExponent .binary64 x.toBits.toBitVec).toNat - 1 : Nat) =
        (@unpackExponent .binary64 x.toBits.toBitVec).toNat - (1023 + 52) := by
      change -1074 + _ = _
      omega
    rw [hScale, ← toNat_withLeadingDigit]
    rfl

/-- The number that a float is. Infinities and what is no number are none. -/
def value? (x : Float) : Option ℚ :=
  match x.toModel.unpack with
  | .notANumber | .infinity _ => none
  | .zero _ => some 0
  | .finite sign significand exponent _ => some (sign.apply (significand : Int) * 2 ^ exponent)

theorem floorScaled_eq (significand : Nat) (exponent : Int) :
    floorScaled significand exponent = ⌊(significand * 2 ^ exponent : ℚ)⌋₊ := by
  rw [floorScaled]
  split
  · rename_i hExponent
    obtain ⟨n, rfl⟩ := Int.eq_ofNat_of_zero_le hExponent
    have hCast : (significand * 2 ^ (n : Int) : ℚ) = (significand * 2 ^ n : Nat) := by
      rw [zpow_natCast, Nat.cast_mul, Nat.cast_pow, Nat.cast_ofNat]
    rw [hCast, Nat.floor_natCast]
    rfl
  · rename_i hExponent
    obtain ⟨n, hn⟩ := Int.eq_ofNat_of_zero_le (a := -exponent) (by omega)
    have hCast : (significand * 2 ^ exponent : ℚ) = significand / (2 ^ n : Nat) := by
      rw [← neg_neg exponent, hn, zpow_neg, zpow_natCast, Nat.cast_pow, Nat.cast_ofNat, div_eq_mul_inv]
    rw [hCast, Nat.floor_div_eq_div, hn]
    rfl

end QuoteSearch.Decimal
