import QuoteSearch.Date
import QuoteSearch.Proofs.Text.Order
import Mathlib.Data.Nat.Basic

/-! # Dates and their written forms

Written dates are compared as texts. A sign comes before a digit and the plus sign before the minus
sign, and behind a sign the digits of a year count from the first one on. So the written forms are
in the order of the calendar from the year 0 to the year 9999, but not beyond.
-/

namespace QuoteSearch.Date

open Std Text

/-- The order of the calendar. -/
def order (a b : Date) : Ordering :=
  (compare a.year b.year).then ((compare a.month b.month).then (compare a.day b.day))

/-- The number of digits of a written year. -/
def yearLength (year : Int) : Nat := (padded 4 year.natAbs).length

def longestYear : Nat := 6

/-- The number that the digits of a year spell with zeros put behind them. -/
def leadingDigits (year : Int) : Nat := year.natAbs * 10 ^ (longestYear - yearLength year)

/-- Years with a plus sign come first, then those with a minus sign, then those without a sign. -/
def signPlace (year : Int) : Nat := if 9999 < year then 0 else if year < 0 then 1 else 2

/-- The order of the written forms of years. -/
def writtenOrder (y z : Int) : Ordering :=
  (compare (signPlace y) (signPlace z)).then
    ((compare (leadingDigits y) (leadingDigits z)).then (compare (yearLength y) (yearLength z)))

theorem compare_mul_pow (m n k : Nat) : compare (m * 10 ^ k) (n * 10 ^ k) = compare m n := by
  have hPos : 0 < 10 ^ k := Nat.pow_pos (by decide)
  simp only [Nat.compare_eq_ite_lt, Nat.mul_lt_mul_right hPos]

theorem compare_lt_of_isDigit {sign c : Char} (hSign : sign.toNat < 48) (hc : isDigit c = true) :
    compare sign c = .lt := by
  rw [LawfulLTCmp.eq_lt_iff_lt, Char.lt_def, UInt32.lt_iff_toNat_lt]
  exact Nat.lt_of_lt_of_le hSign (isDigit_iff.mp hc).1

/-- A dash comes before the next digit of a longer number. -/
theorem compare_shorter_append {a b : List Char} (ha : ∀ c ∈ a, isDigit c = true)
    (hb : ∀ c ∈ b, isDigit c = true) (hShorter : a.length < b.length) {most : Nat} (hMost : b.length ≤ most)
    (x y : List Char) : compare (a ++ '-' :: x) (b ++ '-' :: y) =
      (compare (naturalOf a * 10 ^ (most - a.length)) (naturalOf b * 10 ^ (most - b.length))).then .lt := by
  obtain ⟨front, d, back, rfl, hFront⟩ : ∃ front d back, b = front ++ d :: back ∧ a.length = front.length := by
    refine ⟨b.take a.length, b[a.length], b.drop (a.length + 1), ?_, ?_⟩
    · rw [List.getElem_cons_drop, List.take_append_drop]
    · rw [List.length_take]
      omega
  have hDash : compare '-' d = .lt := compare_lt_of_isDigit (by decide) (hb d (by simp))
  have hBack : naturalOf (d :: back) < 10 ^ (d :: back).length :=
    naturalOf_lt fun c hc => hb c (List.mem_append_right _ hc)
  have hDigits : compare a front = compare (naturalOf a) (naturalOf front) :=
    compare_digits hFront ha fun c hc => hb c (List.mem_append_left _ hc)
  have hLength : (front ++ d :: back).length = front.length + (d :: back).length := List.length_append
  have hPow : 10 ^ (most - a.length) = 10 ^ (d :: back).length * 10 ^ (most - (front ++ d :: back).length) := by
    rw [← Nat.pow_add]
    congr 1
    omega
  -- The digits behind those that are compared decide nothing.
  have hScaled : compare (naturalOf a * 10 ^ (d :: back).length)
      (naturalOf front * 10 ^ (d :: back).length + naturalOf (d :: back)) =
        (compare (naturalOf a) (naturalOf front)).then (compare 0 (naturalOf (d :: back))) := by
    rw [Nat.mul_comm, Nat.mul_comm (naturalOf front), ← compare_mul_add (Nat.pow_pos (by decide)) hBack, Nat.add_zero]
  have hTie : (compare 0 (naturalOf (d :: back))).then .lt = .lt := by
    rcases Nat.eq_zero_or_pos (naturalOf (d :: back)) with hZero | hPos
    · rw [hZero]
      rfl
    · rw [Nat.compare_eq_lt.mpr hPos]
      rfl
  rw [List.append_assoc, compare_append hFront, hDigits, List.cons_append, List.compare_cons_cons, hDash, hPow,
    ← Nat.mul_assoc, compare_mul_pow, naturalOf_append, hScaled, Ordering.then_assoc, hTie]
  rfl

/-- Two numbers with a dash behind them. -/
theorem compare_number_append {a b : List Char} (ha : ∀ c ∈ a, isDigit c = true)
    (hb : ∀ c ∈ b, isDigit c = true) {most : Nat} (hMostA : a.length ≤ most) (hMostB : b.length ≤ most)
    (x y : List Char) : compare (a ++ '-' :: x) (b ++ '-' :: y) =
      ((compare (naturalOf a * 10 ^ (most - a.length)) (naturalOf b * 10 ^ (most - b.length))).then
        (compare a.length b.length)).then (compare x y) := by
  rcases Nat.lt_trichotomy a.length b.length with hLength | hLength | hLength
  · rw [compare_shorter_append ha hb hLength hMostB, Nat.compare_eq_lt.mpr hLength, Ordering.then_assoc]
    rfl
  · rw [compare_append hLength, compare_digits hLength ha hb, List.compare_cons_cons, hLength, compare_mul_pow,
      ReflOrd.compare_self, ReflOrd.compare_self, Ordering.then_eq, Ordering.eq_then]
  · have hSwap := compare_shorter_append hb ha hLength hMostA y x
    rw [OrientedOrd.eq_swap, hSwap, Nat.compare_eq_gt.mpr hLength, Ordering.swap_then, ← OrientedOrd.eq_swap,
      Ordering.then_assoc]
    rfl

def yearSign (year : Int) : List Char := if 9999 < year then ['+'] else if year < 0 then ['-'] else []

theorem yearText_eq (year : Int) : yearText year = yearSign year ++ padded 4 year.natAbs := by
  rw [yearText, yearSign]
  by_cases hLong : 9999 < year
  · rw [if_neg (by omega), if_pos hLong, if_neg (by omega)]
    rfl
  · by_cases hNegative : year < 0
    · rw [if_neg (by omega), if_neg hLong, if_pos hNegative, if_pos hNegative]
      rfl
    · have hFigure : year.toNat = year.natAbs := by omega
      rw [if_pos (by omega), if_neg hLong, if_neg hNegative, hFigure]
      rfl

theorem exists_padded_eq_cons {width : Nat} (hWidth : 0 < width) (n : Nat) :
    ∃ c rest, padded width n = c :: rest ∧ isDigit c = true := by
  have hLength := le_length_padded width n
  obtain ⟨c, rest, hEq⟩ := List.exists_cons_of_length_pos (Nat.lt_of_lt_of_le hWidth hLength)
  exact ⟨c, rest, hEq, isDigit_of_mem_padded c (hEq ▸ List.mem_cons_self)⟩

theorem compare_yearText_of_signPlace_lt {y z : Int} (h : signPlace y < signPlace z) (a b : List Char) :
    compare (yearText y ++ a) (yearText z ++ b) = .lt := by
  rw [yearText_eq, yearText_eq]
  unfold signPlace at h
  by_cases hNegative : z < 0
  · have hPlus : yearSign y = ['+'] := if_pos (by split_ifs at h <;> omega)
    have hMinus : yearSign z = ['-'] := by rw [yearSign, if_neg (by omega), if_pos hNegative]
    rw [hPlus, hMinus]
    rfl
  · obtain ⟨sign, hSigned, hSign⟩ : ∃ sign, yearSign y = [sign] ∧ sign.toNat < 48 := by
      rw [yearSign]
      split_ifs with hLong hBefore
      · exact ⟨'+', rfl, by decide⟩
      · exact ⟨'-', rfl, by decide⟩
      · split_ifs at h <;> omega
    have hUnsigned : yearSign z = [] := by
      rw [yearSign, if_neg (by split_ifs at h <;> omega), if_neg hNegative]
    obtain ⟨c, rest, hDigits, hc⟩ := exists_padded_eq_cons (by decide : 0 < 4) z.natAbs
    rw [hSigned, hUnsigned, hDigits, List.nil_append, List.append_assoc, List.cons_append, List.cons_append,
      List.compare_cons_cons, compare_lt_of_isDigit hSign hc]
    rfl

theorem yearSign_eq_of_signPlace_eq {y z : Int} (h : signPlace y = signPlace z) : yearSign y = yearSign z := by
  grind [signPlace, yearSign]

theorem compare_yearText_append {y z : Int} (hy : y.natAbs < 10 ^ longestYear) (hz : z.natAbs < 10 ^ longestYear)
    (a b : List Char) : compare (yearText y ++ '-' :: a) (yearText z ++ '-' :: b) =
      (writtenOrder y z).then (compare a b) := by
  rcases Nat.lt_trichotomy (signPlace y) (signPlace z) with hSign | hSign | hSign
  · rw [compare_yearText_of_signPlace_lt hSign, writtenOrder, Nat.compare_eq_lt.mpr hSign]
    rfl
  · have hShort : ∀ {year : Int}, year.natAbs < 10 ^ longestYear → (padded 4 year.natAbs).length ≤ longestYear :=
      fun hYear => (length_padded_le_iff (by decide)).mpr ⟨by decide, hYear⟩
    have hNumber : compare (padded 4 y.natAbs ++ '-' :: a) (padded 4 z.natAbs ++ '-' :: b) = _ :=
      compare_number_append isDigit_of_mem_padded isDigit_of_mem_padded (hShort hy) (hShort hz) a b
    rw [yearText_eq, yearText_eq, yearSign_eq_of_signPlace_eq hSign, List.append_assoc, List.append_assoc,
      compare_append_self, hNumber, naturalOf_padded, naturalOf_padded, writtenOrder, hSign, ReflOrd.compare_self,
      Ordering.eq_then]
    rfl
  · rw [OrientedOrd.eq_swap, compare_yearText_of_signPlace_lt hSign, writtenOrder, Nat.compare_eq_gt.mpr hSign]
    rfl

theorem compare_padded {width m n : Nat} (hWidth : 0 < width) (hm : m < 10 ^ width) (hn : n < 10 ^ width) :
    compare (padded width m) (padded width n) = compare m n := by
  have hLength : (padded width m).length = (padded width n).length :=
    (length_padded hWidth hm).trans (length_padded hWidth hn).symm
  rw [compare_digits hLength isDigit_of_mem_padded isDigit_of_mem_padded, naturalOf_padded, naturalOf_padded]

theorem bounds (d : Date) : -262143 ≤ d.year ∧ d.year ≤ 262142 ∧ d.month ≤ 12 ∧ d.day ≤ 31 := by
  have hValid := d.valid
  simp only [isCalendarDay, Bool.and_eq_true, decide_eq_true_eq] at hValid
  obtain ⟨⟨⟨⟨⟨hLeast, hGreatest⟩, -⟩, hMonth⟩, -⟩, hDay⟩ := hValid
  refine ⟨hLeast, hGreatest, hMonth, hDay.trans ?_⟩
  rw [daysInMonth]
  split_ifs <;> decide

/-- Written dates are compared by the written forms of their years, then by months and days. -/
theorem compare_text (a b : Date) : compare a.text b.text =
    (writtenOrder a.year b.year).then ((compare a.month b.month).then (compare a.day b.day)) := by
  obtain ⟨hLeastA, hGreatestA, hMonthA, hDayA⟩ := a.bounds
  obtain ⟨hLeastB, hGreatestB, hMonthB, hDayB⟩ := b.bounds
  have hYearA : a.year.natAbs < 10 ^ longestYear := by
    rw [longestYear]
    omega
  have hYearB : b.year.natAbs < 10 ^ longestYear := by
    rw [longestYear]
    omega
  have hMonth : compare (padded 2 a.month) (padded 2 b.month) = compare a.month b.month :=
    compare_padded (by decide) (by omega) (by omega)
  have hDay : compare (padded 2 a.day) (padded 2 b.day) = compare a.day b.day :=
    compare_padded (by decide) (by omega) (by omega)
  have hMonthLength : (padded 2 a.month).length = (padded 2 b.month).length := by
    rw [length_padded (by decide) (by omega), length_padded (by decide) (by omega)]
  rw [← compare_toList, text, text, String.toList_ofList, String.toList_ofList, chars, chars,
    List.append_assoc, List.cons_append, List.append_assoc, List.cons_append,
    compare_yearText_append hYearA hYearB, compare_append hMonthLength, hMonth, List.compare_cons_cons,
    ReflOrd.compare_self, Ordering.eq_then, hDay]

theorem eq_of_writtenOrder_eq {y z : Int} (h : writtenOrder y z = .eq) : y = z := by
  obtain ⟨hSign, h⟩ := Ordering.then_eq_eq.mp h
  obtain ⟨hDigits, hLength⟩ := Ordering.then_eq_eq.mp h
  have hSign := Nat.compare_eq_eq.mp hSign
  have hDigits := Nat.compare_eq_eq.mp hDigits
  rw [leadingDigits, leadingDigits, Nat.compare_eq_eq.mp hLength] at hDigits
  have hFigure : y.natAbs = z.natAbs := Nat.eq_of_mul_eq_mul_right (Nat.pow_pos (by decide)) hDigits
  grind [signPlace]

theorem order_eq_eq_iff {a b : Date} : order a b = .eq ↔ a = b := by
  constructor
  · intro h
    obtain ⟨hYear, h⟩ := Ordering.then_eq_eq.mp h
    obtain ⟨hMonth, hDay⟩ := Ordering.then_eq_eq.mp h
    cases a
    cases b
    congr
    · exact LawfulEqOrd.eq_of_compare hYear
    · exact LawfulEqOrd.eq_of_compare hMonth
    · exact LawfulEqOrd.eq_of_compare hDay
  · rintro rfl
    rw [order, ReflOrd.compare_self, ReflOrd.compare_self, ReflOrd.compare_self]
    rfl

theorem text_inj {a b : Date} : a.text = b.text ↔ a = b := by
  constructor
  · intro h
    have hEq : compare a.text b.text = .eq := by rw [h, ReflOrd.compare_self]
    obtain ⟨hYear, hRest⟩ := Ordering.then_eq_eq.mp (a.compare_text b ▸ hEq)
    rw [← order_eq_eq_iff, order, eq_of_writtenOrder_eq hYear, ReflOrd.compare_self, Ordering.eq_then, hRest]
  · rintro rfl
    rfl

/-- The written forms of two years are in the order of the years. -/
def YearsAgree (y z : Int) : Prop := writtenOrder y z = compare y z

instance (y z : Int) : Decidable (YearsAgree y z) := inferInstanceAs (Decidable (_ = _))

theorem yearsAgree_self (y : Int) : YearsAgree y y := by
  rw [YearsAgree, writtenOrder, ReflOrd.compare_self, ReflOrd.compare_self, ReflOrd.compare_self, ReflOrd.compare_self]
  rfl

theorem then_of_ne_eq {o : Ordering} (h : o ≠ .eq) (next : Ordering) : o.then next = o := by
  cases o with
  | eq => exact absurd rfl h
  | _ => rfl

theorem compare_text_eq_order_iff {a b : Date} : compare a.text b.text = order a b ↔ YearsAgree a.year b.year := by
  rw [compare_text, order, YearsAgree]
  constructor
  · intro h
    by_cases hYears : a.year = b.year
    · rw [hYears]
      exact yearsAgree_self b.year
    · have hWritten : writtenOrder a.year b.year ≠ .eq := fun hEq => hYears (eq_of_writtenOrder_eq hEq)
      have hCalendar : compare a.year b.year ≠ .eq := fun hEq => hYears (LawfulEqOrd.eq_of_compare hEq)
      rwa [then_of_ne_eq hWritten, then_of_ne_eq hCalendar] at h
  · intro h
    rw [h]

/-- Up to the year 9999 and from the year 0 on all years have four digits and no sign. -/
theorem yearsAgree_of_ordinary {y z : Int} (hy : 0 ≤ y ∧ y ≤ 9999) (hz : 0 ≤ z ∧ z ≤ 9999) : YearsAgree y z := by
  have hLength : ∀ {year : Int}, 0 ≤ year ∧ year ≤ 9999 → yearLength year = 4 := fun hYear =>
    length_padded (by decide) (by omega)
  have hSign : ∀ {year : Int}, 0 ≤ year ∧ year ≤ 9999 → signPlace year = 2 := fun hYear => by
    rw [signPlace, if_neg (by omega), if_neg (by omega)]
  rw [YearsAgree, writtenOrder, leadingDigits, leadingDigits, hLength hy, hLength hz, hSign hy, hSign hz,
    compare_mul_pow, ReflOrd.compare_self, ReflOrd.compare_self, Ordering.eq_then, Ordering.then_eq,
    Nat.compare_eq_ite_lt, Int.compare_eq_ite_lt]
  have hLess : ∀ {x w : Int}, 0 ≤ x → 0 ≤ w → (x.natAbs < w.natAbs ↔ x < w) := by omega
  simp only [hLess hy.1 hz.1, hLess hz.1 hy.1]

end QuoteSearch.Date
