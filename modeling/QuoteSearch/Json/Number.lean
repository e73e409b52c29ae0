import QuoteSearch.Decimal.Numeral
import QuoteSearch.Text.Digit

/-!
# Numbers in JSON

A number without point and exponent is a whole number as long as 64 bits hold it. Every other
number is the float nearest to it, and an error if it is beyond the greatest float.
-/

namespace QuoteSearch.Json

inductive Number where
  | natural (n : Nat)
  /-- The number `-n`, where `n` is positive. -/
  | negative (n : Nat)
  | real (x : Float)
deriving DecidableEq

namespace Number

def mostNatural : Nat := Nat.pow 2 64 - 1

def mostNegative : Nat := Nat.pow 2 63

/-- The float with a sign and a magnitude; `none` if it is too large. -/
def real? (isNegative : Bool) (magnitude : Decimal.Numeral) : Option Number :=
  magnitude.toFloat?.map fun x => .real (if isNegative then -x else x)

/-- The number with the given digits before and behind the point and the given exponent; `none`
if it is too large. A zero with a minus sign is a float. -/
def ofParts? (isNegative : Bool) (before behind : List Char) (isWhole : Bool) (exponent : Int) :
    Option Number :=
  let n := Text.naturalOf (before ++ behind)
  if isWhole && !isNegative && n ≤ mostNatural then some (.natural n)
  else if isWhole && isNegative && 0 < n && n ≤ mostNegative then some (.negative n)
  else real? isNegative ⟨n, exponent - behind.length⟩

end Number

end QuoteSearch.Json
