import QuoteSearch.Text.Blank
import QuoteSearch.Text.Digit

/-!
# Pages

A result list is shown in pages of a fixed size that are counted from one.
-/

namespace QuoteSearch

/-- One page of a result list. -/
structure Page where
  number : UInt32
  size : UInt32
deriving DecidableEq

namespace Page

def largestNumber : Nat := Nat.pow 2 32 - 1

/-- The greatest whole number that a page parameter may spell. -/
def mostSpelled : Nat := Nat.pow 2 63 - 1

/-- The least whole number that a page parameter may spell is the negative of this. -/
def leastSpelled : Nat := Nat.pow 2 63

/-- The whole number spelled by an optional sign and at least one digit, if 64 bits hold it. -/
def spelled? (text : List Char) : Option Int :=
  let number (digits : List Char) (limit : Nat) : Option Nat :=
    if !digits.isEmpty && digits.all Text.isDigit && Text.naturalOf digits ≤ limit then
      some (Text.naturalOf digits)
    else none
  match text with
  | '+' :: digits => (number digits mostSpelled).map fun n => n
  | '-' :: digits => (number digits leastSpelled).map fun n => -n
  | digits => (number digits mostSpelled).map fun n => n

/-- The page number nearest to a whole number. -/
def clamp (n : Int) : UInt32 := UInt32.ofNat (min (max n 1) largestNumber).toNat

/-- The page number that a request asks for: the first one if it spells no number. -/
def numberOfParam (param : Option String) : UInt32 :=
  match param.bind fun p => spelled? (Text.trimBlanks p.toList) with
  | some n => clamp n
  | none => 1

/-- The number of entries on the page, at most. -/
def limit (p : Page) : Nat := p.size.toNat

/-- The number of entries on the pages before it. -/
def before (p : Page) : Nat := (p.number.toNat - 1) * p.size.toNat

/-- The number of values of a word with 64 bits. -/
def wordValues : Nat := Nat.pow 2 64

/-- The number of entries that a store is told to leave out, a word with a sign: what takes more than
63 bits comes out negative. -/
def offset (p : Page) : Int := Int.bmod p.before wordValues

/-- The number of pages that `total` entries fill; there is always one. -/
def count (p : Page) (total : Nat) : Nat :=
  if p.size = 0 then 1 else max ((total + (p.size.toNat - 1)) / p.size.toNat) 1

/-- What a store gives of the entries for the page. It leaves out none if it is told a negative number. -/
def slice {α : Type} (p : Page) (entries : List α) : List α := (entries.drop p.offset.toNat).take p.limit

end Page

end QuoteSearch
