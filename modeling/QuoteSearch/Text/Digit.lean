/-!
# Digits

ASCII digits, the numbers they spell, and numbers written with zeros in front.
-/

namespace QuoteSearch.Text

def isDigit (c : Char) : Bool := '0' ≤ c && c ≤ '9'

def digitValue (c : Char) : Nat := c.toNat - '0'.toNat

/-- The number spelled by decimal digits; no digits spell zero. -/
def naturalOf (digits : List Char) : Nat := digits.foldl (fun n c => 10 * n + digitValue c) 0

/-- The value of a hexadecimal digit in either letter case. -/
def hexValue? (c : Char) : Option Nat :=
  if isDigit c then some (digitValue c)
  else if 'a' ≤ c ∧ c ≤ 'f' then some (c.toNat - 'a'.toNat + 10)
  else if 'A' ≤ c ∧ c ≤ 'F' then some (c.toNat - 'A'.toNat + 10)
  else none

/-- A number in decimal with zeros in front, at least `width` digits long. -/
def padded (width n : Nat) : List Char :=
  let digits := Nat.toDigits 10 n
  List.replicate (width - digits.length) '0' ++ digits

@[simp]
theorem naturalOf_nil : naturalOf [] = 0 := rfl

theorem naturalOf_concat (digits : List Char) (c : Char) :
    naturalOf (digits ++ [c]) = 10 * naturalOf digits + digitValue c := by
  simp [naturalOf]

theorem isDigit_iff {c : Char} : isDigit c = true ↔ 48 ≤ c.toNat ∧ c.toNat ≤ 57 := by
  simp only [isDigit, Bool.and_eq_true, decide_eq_true_eq, Char.le_def, UInt32.le_iff_toNat_le]
  rfl

theorem digitValue_lt {c : Char} (h : isDigit c = true) : digitValue c < 10 := by
  have := isDigit_iff.1 h
  have hzero : '0'.toNat = 48 := rfl
  simp only [digitValue, hzero]
  omega

theorem le_length_padded (width n : Nat) : width ≤ (padded width n).length := by
  simp only [padded, List.length_append, List.length_replicate]
  omega

end QuoteSearch.Text
