/-!
# What a float stands for

A float is decoded from its bits into an infinity, a signed whole number times a power of two, or
no number at all, so that rules on its value can be stated in whole numbers.
-/

namespace QuoteSearch.Decimal

inductive Quantity where
  | notANumber
  | infinite (negative : Bool)
  /-- The number `significand * 2 ^ exponent`, with a minus sign if `negative`. -/
  | finite (negative : Bool) (significand : Nat) (exponent : Int)
deriving DecidableEq

def fractionBits : Nat := 52

/-- The exponent of the floats that are next to zero. -/
def leastExponent : Int := -1074

def quantity (x : Float) : Quantity :=
  let bits := x.toBits.toNat
  let negative := bits / Nat.pow 2 63 % 2 == 1
  let scale := bits / Nat.pow 2 fractionBits % Nat.pow 2 11
  let fraction := bits % Nat.pow 2 fractionBits
  if scale = 2047 then
    if fraction = 0 then .infinite negative else .notANumber
  else if scale = 0 then .finite negative fraction leastExponent
  else .finite negative (Nat.pow 2 fractionBits + fraction) (leastExponent + (scale - 1 : Nat))

def isNotANumber (x : Float) : Bool := quantity x == .notANumber

/-- A whole number that grows with the float. Both zeros have the same. -/
def orderKey (x : Float) : Int :=
  let bits := x.toBits.toNat
  if bits / Nat.pow 2 63 % 2 = 1 then -(bits % Nat.pow 2 63 : Nat) else bits

/-- The whole number `⌊significand * 2 ^ exponent⌋`. -/
def floorScaled (significand : Nat) (exponent : Int) : Nat :=
  if 0 ≤ exponent then significand * Nat.pow 2 exponent.toNat
  else significand / Nat.pow 2 (-exponent).toNat

/-- Replaces the negative zero by the positive one. -/
def withoutNegativeZero (x : Float) : Float :=
  match quantity x with
  | .finite true 0 _ => 0
  | _ => x

end QuoteSearch.Decimal
