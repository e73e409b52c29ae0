import QuoteSearch.Decimal.Quantity

/-!
# Decimal numerals and the floats next to them

A numeral is read as the float nearest to it; of two equally near floats the one with an even
significand is taken. All steps are exact, so nothing is rounded twice.
-/

namespace QuoteSearch.Decimal

/-- The number `digits * 10 ^ exponent`. -/
structure Numeral where
  digits : Nat
  exponent : Int
deriving DecidableEq

/-- The whole number nearest to `num / den`, the even one if two are equally near. -/
def roundDiv (num den : Nat) : Nat :=
  let below := num / den
  let rest := 2 * (num % den)
  if rest < den || (rest == den && below % 2 == 0) then below else below + 1

/-- The ratio `num / den`, divided by `2 ^ exponent`. -/
def overPowerOfTwo (num den : Nat) (exponent : Int) : Nat × Nat :=
  (num * Nat.pow 2 (-exponent).toNat, den * Nat.pow 2 exponent.toNat)

/-- The exponent of the floats around a positive ratio: with it the ratio has one digit more than
a fraction has, unless it is next to zero. -/
def exponentAround (num den : Nat) : Int :=
  let guess := max leastExponent ((num.log2 : Int) - den.log2 - fractionBits - 1)
  let (n, d) := overPowerOfTwo num den guess
  if n / d < Nat.pow 2 (fractionBits + 1) then guess else guess + 1

def infiniteBits : Nat := 2047 * Nat.pow 2 fractionBits

/-- The float nearest to a positive ratio; `none` if that is beyond the greatest float. Rounding up
to a power of two carries into the exponent bits by itself. -/
def ofRatio? (num den : Nat) : Option Float :=
  let exponent := exponentAround num den
  let (n, d) := overPowerOfTwo num den exponent
  let bits := (exponent - leastExponent).toNat * Nat.pow 2 fractionBits + roundDiv n d
  if bits < infiniteBits then some (Float.ofBits (UInt64.ofNat bits)) else none

/-- The greatest power of ten that is not beyond the greatest float. -/
def mostPower : Int := 308

/-- The float nearest to a numeral; `none` if that is beyond the greatest float. A numeral below
`2 ^ -1080` is nearest to zero, as `10 ^ exponent ≤ 2 ^ (3 * exponent)` for negative exponents. -/
def Numeral.toFloat? (n : Numeral) : Option Float :=
  if n.digits = 0 then some 0
  else if mostPower < n.exponent then none
  else if n.digits.log2 + 1 + 3 * n.exponent < leastExponent - 6 then some 0
  else ofRatio? (n.digits * Nat.pow 10 n.exponent.toNat) (Nat.pow 10 (-n.exponent).toNat)

end QuoteSearch.Decimal
