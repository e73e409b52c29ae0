import QuoteSearch.Decimal.Quantity
import QuoteSearch.Text.Digit

/-!
# Timestamps

A moment of a recording is shown in whole seconds as `M:SS`, and as `H:MM:SS` from one hour on.
-/

namespace QuoteSearch.Timestamp

def mostSeconds : Nat := Nat.pow 2 64 - 1

/-- The whole seconds of a moment, at most `mostSeconds`. A moment that is absent, not finite or
not positive counts as the beginning. -/
def wholeSeconds : Option Float → Nat
  | none => 0
  | some moment =>
    match Decimal.quantity moment with
    | .finite false significand exponent =>
      min (Decimal.floorScaled significand exponent) mostSeconds
    | _ => 0

def formatSeconds (total : Nat) : List Char :=
  let hours := total / 3600
  let minutes := total % 3600 / 60
  let seconds := total % 60
  if 0 < hours then
    Nat.toDigits 10 hours ++ ':' :: Text.padded 2 minutes ++ ':' :: Text.padded 2 seconds
  else Nat.toDigits 10 minutes ++ ':' :: Text.padded 2 seconds

def format (moment : Option Float) : String := String.ofList (formatSeconds (wholeSeconds moment))

end QuoteSearch.Timestamp
