import QuoteSearch.Proofs.Date

/-! # Reading written dates

A written date is read back as the date that it was: each number has the digits that are looked for,
and a dash or the end of the text stands behind it.
-/

namespace QuoteSearch.Date

open Text

/-- The number that is read with further digits. -/
def spelledOn (n : Nat) (digits : List Char) : Nat := digits.foldl (fun n c => 10 * n + digitValue c) n

theorem le_spelledOn (n : Nat) (digits : List Char) : n ≤ spelledOn n digits := by
  induction digits generalizing n with
  | nil => exact Nat.le_refl n
  | cons c digits ih =>
    have hNext := ih (10 * n + digitValue c)
    change n ≤ spelledOn (10 * n + digitValue c) digits
    omega

variable {digits rest : List Char}

theorem readDigits_append (hDigits : ∀ c ∈ digits, isDigit c = true) (hRest : ∀ c ∈ rest.head?, isDigit c = false)
    {width n : Nat} (hWidth : digits.length ≤ width) (hMost : spelledOn n digits ≤ mostRead) :
    readDigits width n (digits ++ rest) = .ok (spelledOn n digits, rest) := by
  induction digits generalizing width n with
  | nil =>
    cases rest with
    | nil => cases width <;> rfl
    | cons c rest =>
      cases width with
      | zero => rfl
      | succ width => simp [readDigits, spelledOn, hRest c rfl]
  | cons c digits ih =>
    obtain ⟨hFirst, hLater⟩ := List.forall_mem_cons.mp hDigits
    cases width with
    | zero => exact absurd hWidth (Nat.not_succ_le_zero _)
    | succ width =>
      have hNext : 10 * n + digitValue c ≤ mostRead := (le_spelledOn _ digits).trans hMost
      rw [List.cons_append, readDigits]
      simp only [hFirst, hNext, if_true]
      exact ih hLater (Nat.le_of_succ_le_succ hWidth) hMost

theorem readNumber_padded {width most n : Nat} (hWidth : 0 < width) (hMost : (padded width n).length ≤ most)
    (hn : n ≤ mostRead) (hRest : ∀ c ∈ rest.head?, isDigit c = false) :
    readNumber most (padded width n ++ rest) = .ok (n, rest) := by
  have hSpelled : spelledOn 0 (padded width n) = n := naturalOf_padded width n
  have hRead := readDigits_append isDigit_of_mem_padded hRest hMost (hSpelled ▸ hn)
  obtain ⟨c, digits, hDigits, hc⟩ := exists_padded_eq_cons hWidth n
  rw [hSpelled] at hRead
  rw [hDigits] at hRead ⊢
  rw [List.cons_append, readNumber, if_pos hc]
  exact hRead

theorem dropWhile_padded {width : Nat} (hWidth : 0 < width) (n : Nat) (rest : List Char) :
    (padded width n ++ rest).dropWhile isBlank = padded width n ++ rest := by
  obtain ⟨c, digits, hDigits, hc⟩ := exists_padded_eq_cons hWidth n
  rw [hDigits, List.cons_append, List.dropWhile_cons_of_neg]
  rw [isBlank_of_isDigit hc]
  exact Bool.false_ne_true

theorem readPart_padded {most n : Nat} (hLeast : 1 ≤ n) (hMost : n ≤ most) (hn : n < 10 ^ 2)
    (hRest : ∀ c ∈ rest.head?, isDigit c = false) : readPart most (padded 2 n ++ rest) = .ok (n, rest) := by
  have hBound : n ≤ mostRead := (Nat.le_of_lt hn).trans (by decide)
  have hLength : (padded 2 n).length ≤ 2 := Nat.le_of_eq (length_padded (by decide) hn)
  rw [readPart, dropWhile_padded (by decide), readNumber_padded (by decide) hLength hBound hRest]
  exact if_pos ⟨hLeast, hMost⟩

theorem readDash_cons (rest : List Char) : readDash ('-' :: rest) = .ok rest := by
  have hDash : isBlank '-' = false := by decide
  simp [readDash, hDash]

theorem readYear_yearText {year : Int} (hYear : year.natAbs < 10 ^ longestYear) (rest : List Char) :
    readYear (yearText year ++ '-' :: rest) = .ok (year, '-' :: rest) := by
  have hDash : ∀ c ∈ ('-' :: rest).head?, isDigit c = false := by
    rintro c ⟨⟩
    decide
  have hBound : year.natAbs ≤ mostRead := (Nat.le_of_lt hYear).trans (by decide)
  have hLength : (padded 4 year.natAbs).length ≤ (padded 4 year.natAbs ++ '-' :: rest).length := by simp
  rw [yearText_eq, yearSign, readYear]
  split_ifs with hLong hNegative
  · have hFront : (['+'] ++ padded 4 year.natAbs ++ '-' :: rest).dropWhile isBlank =
        '+' :: (padded 4 year.natAbs ++ '-' :: rest) := List.dropWhile_cons_of_neg (by decide)
    have hSame : (year.natAbs : Int) = year := by omega
    rw [hFront]
    simp only [readNumber_padded (by decide) hLength hBound hDash, Except.map, hSame]
  · have hFront : (['-'] ++ padded 4 year.natAbs ++ '-' :: rest).dropWhile isBlank =
        '-' :: (padded 4 year.natAbs ++ '-' :: rest) := List.dropWhile_cons_of_neg (by decide)
    have hSame : -(year.natAbs : Int) = year := by omega
    rw [hFront]
    simp only [readNumber_padded (by decide) hLength hBound hDash, Except.map, hSame]
  · have hLength : (padded 4 year.natAbs).length ≤ 4 := Nat.le_of_eq (length_padded (by decide) (by omega))
    have hRead := readNumber_padded (by decide) hLength hBound hDash
    have hSame : (year.natAbs : Int) = year := by omega
    rw [List.nil_append, dropWhile_padded (by decide)]
    -- The first character is a digit and no sign.
    obtain ⟨c, digits, hDigits, hc⟩ := exists_padded_eq_cons (by decide : 0 < 4) year.natAbs
    rw [hDigits] at hRead ⊢
    rw [List.cons_append] at hRead ⊢
    split
    · rename_i hFirst
      cases hFirst
      exact absurd hc (by decide)
    · rename_i hFirst
      cases hFirst
      exact absurd hc (by decide)
    · simp only [hRead, Except.map, hSame]

/-- What is written of a date is enough to know it. -/
theorem read_text (d : Date) : read d.text = .ok d := by
  have hValid := d.valid
  simp only [isCalendarDay, Bool.and_eq_true, decide_eq_true_eq] at hValid
  obtain ⟨⟨⟨⟨-, hMonthLeast⟩, hMonthMost⟩, hDayLeast⟩, -⟩ := hValid
  obtain ⟨hYearLeast, hYearMost, -, hDayMost⟩ := d.bounds
  have hYear : isYear d.year = true := by
    simp only [isYear, Bool.and_eq_true, decide_eq_true_eq]
    have hPow : Int.pow 2 31 = 2147483648 := by decide
    omega
  have hText : d.chars = yearText d.year ++ '-' :: (padded 2 d.month ++ '-' :: (padded 2 d.day ++ [])) := by
    simp [chars]
  have hYearSize : d.year.natAbs < 10 ^ longestYear := by
    rw [longestYear]
    omega
  have hYearRead := readYear_yearText hYearSize
  have hMonthRead : ∀ rest, readPart 12 (padded 2 d.month ++ '-' :: rest) = .ok (d.month, '-' :: rest) := by
    intro rest
    apply readPart_padded hMonthLeast hMonthMost (by omega)
    rintro c ⟨⟩
    decide
  have hDayRead : readPart 31 (padded 2 d.day ++ []) = .ok (d.day, []) := by
    apply readPart_padded hDayLeast hDayMost (by omega)
    rintro c ⟨⟩
  rw [read, text, String.toList_ofList, hText, readChars]
  simp only [hYearRead, hMonthRead, hDayRead, readDash_cons, hYear, bind, Except.bind]
  simp [d.valid, pure, Except.pure]

end QuoteSearch.Date
