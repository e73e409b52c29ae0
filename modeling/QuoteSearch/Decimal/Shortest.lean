import QuoteSearch.Decimal.Numeral

/-!
# The shortest decimal text of a float

A finite float is written with the fewest digits that are read back as the same float, and of
those with the digits nearest to its value; if two are equally near, with the even last digit.

The search goes through the decimal grids from wide to narrow. On each it looks at the two
neighbours of the value: if any point of a grid is read back as the float, one of these two is.
-/

namespace QuoteSearch.Decimal

/-- A positive number and the interval of the numbers that are rounded to it, all in the same
unit. The ends belong to the interval if `closed`. -/
structure Neighbourhood where
  low : Nat
  value : Nat
  high : Nat
  closed : Bool

/-- The neighbourhood of `significand * 2 ^ exponent`, in units of `2 ^ (exponent - 2)`. The gap
below a power of two is half the gap above it. -/
def neighbourhood (significand : Nat) (exponent : Int) : Neighbourhood :=
  let narrow := significand == Nat.pow 2 fractionBits && leastExponent < exponent
  { low := 4 * significand - (if narrow then 1 else 2)
    value := 4 * significand
    high := 4 * significand + 2
    closed := significand % 2 == 0 }

/-- Whether a number lies in the neighbourhood. -/
def Neighbourhood.holds (n : Neighbourhood) (a : Nat) : Bool :=
  if n.closed then n.low ≤ a && a ≤ n.high else n.low < a && a < n.high

/-- The neighbourhood and the step of the grid of `10 ^ power`, in one unit. -/
def onGrid (n : Neighbourhood) (exponent power : Int) : Neighbourhood × Nat :=
  let unit := exponent - 2
  let scale := Nat.pow 2 unit.toNat * Nat.pow 10 (-power).toNat
  let step := Nat.pow 2 (-unit).toNat * Nat.pow 10 power.toNat
  (⟨n.low * scale, n.value * scale, n.high * scale, n.closed⟩, step)

/-- The point of a grid that is read back as the float, the nearer one if there are two. -/
def pointOn? (n : Neighbourhood) (exponent power : Int) : Option Nat :=
  let (m, step) := onGrid n exponent power
  let below := m.value / step
  let above := below + 1
  match m.holds (below * step), m.holds (above * step) with
  | true, true =>
    let toBelow := m.value - below * step
    let toAbove := above * step - m.value
    if toBelow < toAbove || (toBelow == toAbove && below % 2 == 0) then some below
    else some above
  | true, false => some below
  | false, true => some above
  | false, false => none

/-- Looks for a point on the grid of `10 ^ power` and on the next narrower ones. -/
def search (n : Neighbourhood) (exponent : Int) : Nat → Int → Numeral
  | 0, power => ⟨0, power⟩
  | fuel + 1, power =>
    match pointOn? n exponent power with
    | some digits => ⟨digits, power⟩
    | none => search n exponent fuel (power - 1)

/-- A power of ten that is not smaller than `significand * 2 ^ exponent`. -/
def widestPower (significand : Nat) (exponent : Int) : Int :=
  (exponent + significand.log2 + 1) * 30103 / 100000 + 1

/-- Any float has a numeral of at most 17 digits, so the search is long enough. -/
def shortest (significand : Nat) (exponent : Int) : Numeral :=
  search (neighbourhood significand exponent) exponent 24 (widestPower significand exponent)

/-- Which numbers are written in full and how the others are. -/
structure Layout where
  /-- The point stands at most this many places to the right of the first digit. -/
  mostWholeDigits : Int
  /-- At most this many zeros stand between the point and the first digit. -/
  mostLeadingZeros : Int
  exponentMark : Char

/-- Numbers with up to sixteen digits before the point or up to four zeros behind it are written
in full, with a digit on both sides of the point. Other numbers have an exponent without a plus
sign, and no point if there is only one digit. -/
def jsonLayout : Layout := ⟨16, 4, 'e'⟩

def zeros (n : Int) : List Char := List.replicate n.toNat '0'

def intText (n : Int) : List Char :=
  if n < 0 then '-' :: Nat.toDigits 10 n.natAbs else Nat.toDigits 10 n.natAbs

def Layout.write (layout : Layout) (n : Numeral) : List Char :=
  let digits := Nat.toDigits 10 n.digits
  let whole : Int := digits.length + n.exponent
  if 0 ≤ n.exponent && whole ≤ layout.mostWholeDigits then
    digits ++ zeros n.exponent ++ ['.', '0']
  else if 0 < whole && whole ≤ layout.mostWholeDigits then
    digits.take whole.toNat ++ '.' :: digits.drop whole.toNat
  else if -layout.mostLeadingZeros ≤ whole && whole ≤ 0 then
    ['0', '.'] ++ zeros (-whole) ++ digits
  else
    let point := if digits.length = 1 then [] else '.' :: digits.drop 1
    digits.take 1 ++ point ++ layout.exponentMark :: intText (whole - 1)

/-- The text of a finite float; `none` for infinities and for what is no number. -/
def text? (x : Float) : Option (List Char) :=
  match quantity x with
  | .finite negative significand exponent =>
    let magnitude :=
      if significand = 0 then ['0', '.', '0']
      else jsonLayout.write (shortest significand exponent)
    some (if negative then '-' :: magnitude else magnitude)
  | _ => none

end QuoteSearch.Decimal
