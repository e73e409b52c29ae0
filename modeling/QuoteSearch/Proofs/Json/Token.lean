import QuoteSearch.Json.Document
import QuoteSearch.Json.Value
import QuoteSearch.Proofs.Text.Digit

/-! # Strings and numbers in JSON

A quoted text is read as the text that was quoted, and a written number as the number that its parts
spell, whatever follows that could not belong to it.
-/

namespace QuoteSearch.Json

open Text

namespace Document

/-- The ways to spell a text inside quotes: a character stands for itself or is escaped, by its code units if
need be. -/
inductive IsSpelled : List Char → List Char → Prop
  | nil : IsSpelled [] []
  | plain {c : Char} {s spelled : List Char} : c ≠ '"' → c ≠ '\\' → ¬ c.toNat < 0x20 → IsSpelled s spelled →
    IsSpelled (c :: s) (c :: spelled)
  | escaped {c e : Char} {s spelled : List Char} : escaped? e = some c → IsSpelled s spelled →
    IsSpelled (c :: s) ('\\' :: e :: spelled)
  | unit {n : Nat} {a b c d : Char} {s spelled : List Char} : unit? a b c d = some n → isLeading n = false →
    isTrailing n = false → IsSpelled s spelled →
    IsSpelled (Char.ofNat n :: s) ('\\' :: 'u' :: a :: b :: c :: d :: spelled)
  | pair {m n : Nat} {a b c d a' b' c' d' : Char} {s spelled : List Char} : unit? a b c d = some m →
    isLeading m = true → unit? a' b' c' d' = some n → isTrailing n = true → IsSpelled s spelled →
    IsSpelled (Char.ofNat ((m - 0xD800) * 0x400 + (n - 0xDC00) + 0x10000) :: s)
      ('\\' :: 'u' :: a :: b :: c :: d :: '\\' :: 'u' :: a' :: b' :: c' :: d' :: spelled)

variable {reversed : List Char} {n : Nat}

theorem readText_unit {a b c d : Char} (h : unit? a b c d = some n) (scan : Scan) (rest : List Char) :
    readText scan ('\\' :: 'u' :: a :: b :: c :: d :: rest) = readText (scan.pushUnit n) rest := by
  rw [readText]
  simp only [h]

theorem pushUnit_alone (hLeading : isLeading n = false) (hTrailing : isTrailing n = false) :
    Scan.pushUnit (.ok ⟨reversed, none⟩) n = .ok ⟨Char.ofNat n :: reversed, none⟩ := by
  change (if isTrailing n then _ else if isLeading n then _ else _) = _
  rw [hTrailing, hLeading]
  rfl

theorem isTrailing_of_isLeading (h : isLeading n = true) : isTrailing n = false := by
  simp only [isLeading, isTrailing, Bool.and_eq_true, Bool.and_eq_false_iff, decide_eq_true_eq,
    decide_eq_false_iff_not] at *
  omega

theorem pushUnit_leading (h : isLeading n = true) :
    Scan.pushUnit (.ok ⟨reversed, none⟩) n = .ok ⟨reversed, some n⟩ := by
  change (if isTrailing n then _ else if isLeading n then _ else _) = _
  rw [isTrailing_of_isLeading h, h]
  rfl

theorem pushUnit_trailing (h : isTrailing n = true) (m : Nat) : Scan.pushUnit (.ok ⟨reversed, some m⟩) n =
    .ok ⟨Char.ofNat ((m - 0xD800) * 0x400 + (n - 0xDC00) + 0x10000) :: reversed, none⟩ := by
  change (if isTrailing n then _ else _) = _
  rw [h]
  rfl

theorem readText_escaped {c e : Char} (h : escaped? e = some c) (reversed rest : List Char) :
    readText (.ok ⟨reversed, none⟩) ('\\' :: e :: rest) = readText (.ok ⟨c :: reversed, none⟩) rest := by
  have hUnit : e ≠ 'u' := by
    rintro rfl
    cases h
  rw [readText]
  · simp only [h]
    rfl
  · exact fun _ _ _ _ _ he _ => hUnit he
  · exact hUnit

theorem readText_cons {c : Char} (hQuote : c ≠ '"') (hBackslash : c ≠ '\\') (hControl : ¬ c.toNat < 0x20)
    (reversed rest : List Char) :
    readText (.ok ⟨reversed, none⟩) (c :: rest) = readText (.ok ⟨c :: reversed, none⟩) rest := by
  rw [readText]
  · rw [if_neg hControl]
    rfl
  exacts [hQuote, fun h _ => hBackslash h, fun _ _ _ _ _ h _ => hBackslash h, fun _ h _ => hBackslash h,
    fun _ _ h _ => hBackslash h]

theorem IsSpelled.read {s spelled : List Char} (h : IsSpelled s spelled) (reversed rest : List Char) :
    readText (.ok ⟨reversed, none⟩) (spelled ++ '"' :: rest) =
      .ok (.ok (String.ofList (reversed.reverse ++ s)), rest) := by
  induction h generalizing reversed with
  | nil =>
    rw [List.append_nil]
    rfl
  | plain hQuote hBackslash hControl _ ih =>
    rw [List.cons_append, readText_cons hQuote hBackslash hControl, ih, List.reverse_cons, List.append_assoc,
      List.singleton_append]
  | escaped hEscape _ ih =>
    rw [List.cons_append, List.cons_append, readText_escaped hEscape, ih, List.reverse_cons, List.append_assoc,
      List.singleton_append]
  | unit hUnit hLeading hTrailing _ ih =>
    simp only [List.cons_append]
    rw [readText_unit hUnit, pushUnit_alone hLeading hTrailing, ih, List.reverse_cons, List.append_assoc,
      List.singleton_append]
  | pair hFirst hLeading hSecond hTrailing _ ih =>
    simp only [List.cons_append]
    rw [readText_unit hFirst, pushUnit_leading hLeading, readText_unit hSecond, pushUnit_trailing hTrailing, ih,
      List.reverse_cons, List.append_assoc, List.singleton_append]

theorem unit?_control {n : Nat} (h : n < 0x20) :
    unit? '0' '0' (hexDigit (n / 16)) (hexDigit (n % 16)) = some n := by
  have hUnits : ∀ n < 0x20, unit? '0' '0' (hexDigit (n / 16)) (hexDigit (n % 16)) = some n := by decide
  exact hUnits n h

theorem IsSpelled.escape {s spelled : List Char} (h : IsSpelled s spelled) (c : Char) :
    IsSpelled (c :: s) (escapeChar c ++ spelled) := by
  rw [escapeChar]
  split_ifs with hQuote hBackslash hLine hReturn hTab hBackspace hFeed hControl
  · exact .escaped (by rw [hQuote]; rfl) h
  · exact .escaped (by rw [hBackslash]; rfl) h
  · exact .escaped (by rw [hLine]; rfl) h
  · exact .escaped (by rw [hReturn]; rfl) h
  · exact .escaped (by rw [hTab]; rfl) h
  · exact .escaped (by rw [hBackspace]; rfl) h
  · exact .escaped (by rw [hFeed]; rfl) h
  · have hLeading : isLeading c.toNat = false := by
      simp only [isLeading, Bool.and_eq_false_iff, decide_eq_false_iff_not]
      omega
    have hTrailing : isTrailing c.toNat = false := by
      simp only [isTrailing, Bool.and_eq_false_iff, decide_eq_false_iff_not]
      omega
    have hUnit := IsSpelled.unit (unit?_control hControl) hLeading hTrailing h
    rwa [Char.ofNat_toNat] at hUnit
  · exact .plain hQuote hBackslash hControl h

theorem isSpelled_escape (s : List Char) : IsSpelled s (s.flatMap escapeChar) := by
  induction s with
  | nil => exact .nil
  | cons c s ih => exact ih.escape c

end Document

/-- The number that a whole number is read as. -/
def Number.ofInt : Int → Number
  | .ofNat n => .natural n
  | .negSucc n => .negative (n + 1)

def IsDigits (digits : List Char) : Prop := digits ≠ [] ∧ ∀ c ∈ digits, isDigit c = true

/-- The parts of a number as it is written. -/
structure NumberText where
  isNegative : Bool
  before : List Char
  behind : Option (List Char)
  /-- The mark together with a sign behind it, and the digits. -/
  exponent : Option (List Char × List Char)

namespace NumberText

def marks : List (List Char) := [['e'], ['E'], ['e', '+'], ['E', '+'], ['e', '-'], ['E', '-']]

structure IsWritten (n : NumberText) : Prop where
  before : IsDigits n.before
  /-- There is no zero in front of other digits. -/
  zero : n.before.head? = some '0' → n.before = ['0']
  behind : ∀ digits ∈ n.behind, IsDigits digits
  exponent : ∀ e ∈ n.exponent, e.1 ∈ marks ∧ IsDigits e.2

def signChars (n : NumberText) : List Char := if n.isNegative then ['-'] else []

def fractionChars (n : NumberText) : List Char := n.behind.elim [] fun digits => '.' :: digits

def exponentChars (n : NumberText) : List Char := n.exponent.elim [] fun e => e.1 ++ e.2

def chars (n : NumberText) : List Char :=
  n.signChars ++ (n.before ++ (n.fractionChars ++ n.exponentChars))

def exponentOf (e : List Char × List Char) : Int := (if '-' ∈ e.1 then -1 else 1) * naturalOf e.2

/-- The number that the parts spell. -/
def token (n : NumberText) : Token Number :=
  (Number.ofParts? n.isNegative n.before (n.behind.getD []) (n.behind.isNone && n.exponent.isNone)
    ((n.exponent.map exponentOf).getD 0)).elim (.error .numberOutOfRange) .ok

/-- Nothing that could belong to a number stands in front. -/
def EndsBefore (rest : List Char) : Prop :=
  ∀ c ∈ rest.head?, isDigit c = false ∧ c ≠ '.' ∧ c ≠ 'e' ∧ c ≠ 'E'

variable {n : NumberText} {digits rest : List Char}

theorem takeWhile_digits (hDigits : IsDigits digits) (hRest : ∀ c ∈ rest.head?, isDigit c = false) :
    (digits ++ rest).takeWhile isDigit = digits := by
  rw [List.takeWhile_append_of_pos hDigits.2]
  cases rest with
  | nil => exact List.append_nil digits
  | cons c rest => rw [List.takeWhile_cons_of_neg (by simp [hRest c rfl]), List.append_nil]

open Document

theorem readExponent_none (isNegative : Bool) (before : List Char) (behind : Option (List Char))
    (hRest : EndsBefore rest) : readExponent isNegative before behind rest =
      (.number (token ⟨isNegative, before, behind, none⟩), some rest) := by
  cases rest with
  | nil => rfl
  | cons c rest =>
    obtain ⟨-, -, hSmall, hGreat⟩ := hRest c rfl
    simp [readExponent, hSmall, hGreat, token]

theorem readExponent_mark (isNegative : Bool) (before : List Char) (behind : Option (List Char))
    {mark : List Char} (hMark : mark ∈ marks) (hDigits : IsDigits digits) (hRest : EndsBefore rest) :
    readExponent isNegative before behind (mark ++ (digits ++ rest)) =
      (.number (token ⟨isNegative, before, behind, some (mark, digits)⟩), some rest) := by
  have hTake := takeWhile_digits hDigits fun c hc => (hRest c hc).1
  obtain ⟨hNonempty, hAll⟩ := hDigits
  obtain ⟨d, digits, rfl⟩ := List.exists_cons_of_ne_nil hNonempty
  have hPlus : d ≠ '+' := by
    rintro rfl
    exact absurd (hAll _ List.mem_cons_self) (by decide)
  have hMinus : d ≠ '-' := by
    rintro rfl
    exact absurd (hAll _ List.mem_cons_self) (by decide)
  simp only [marks, List.mem_cons, List.not_mem_nil, or_false] at hMark
  rcases hMark with rfl | rfl | rfl | rfl | rfl | rfl
  all_goals
    simp only [List.cons_append, List.nil_append] at hTake ⊢
    simp [readExponent, hPlus, hMinus, hTake, token, exponentOf]

theorem exists_cons_of_mem_marks {mark : List Char} (h : mark ∈ marks) :
    ∃ c tail, mark = c :: tail ∧ isDigit c = false ∧ c ≠ '.' := by
  simp only [marks, List.mem_cons, List.not_mem_nil, or_false] at h
  rcases h with rfl | rfl | rfl | rfl | rfl | rfl
  all_goals exact ⟨_, _, rfl, by decide, by decide⟩

/-- Behind the digits of a part there is neither a digit nor a point. -/
theorem head?_exponentChars (hn : n.IsWritten) (hRest : EndsBefore rest) :
    ∀ c ∈ (n.exponentChars ++ rest).head?, isDigit c = false ∧ c ≠ '.' := by
  intro c hc
  cases hExponent : n.exponent with
  | none =>
    rw [exponentChars, hExponent] at hc
    obtain ⟨hDigit, hPoint, -, -⟩ := hRest c hc
    exact ⟨hDigit, hPoint⟩
  | some e =>
    obtain ⟨d, mark, hMark, hHead⟩ := exists_cons_of_mem_marks (hn.exponent e hExponent).1
    rw [exponentChars, hExponent, Option.elim_some, hMark] at hc
    obtain rfl := Option.some.inj hc
    exact hHead

theorem readExponent_eq (hn : n.IsWritten) (hRest : EndsBefore rest) :
    readExponent n.isNegative n.before n.behind (n.exponentChars ++ rest) = (.number n.token, some rest) := by
  obtain ⟨isNegative, before, behind, exponent⟩ := n
  cases exponent with
  | none => exact readExponent_none isNegative before behind hRest
  | some e =>
    obtain ⟨hMark, hDigits⟩ := hn.exponent e rfl
    rw [exponentChars, Option.elim_some, List.append_assoc]
    exact readExponent_mark isNegative before behind hMark hDigits hRest

theorem readFraction_eq (hn : n.IsWritten) (hRest : EndsBefore rest) :
    readFraction n.isNegative n.before (n.fractionChars ++ (n.exponentChars ++ rest)) =
      (.number n.token, some rest) := by
  have hHead := head?_exponentChars hn hRest
  have hExponent := readExponent_eq hn hRest
  cases hBehind : n.behind with
  | none =>
    rw [hBehind] at hExponent
    rw [fractionChars, hBehind, Option.elim_none, List.nil_append, ← hExponent]
    cases hText : n.exponentChars ++ rest with
    | nil => rfl
    | cons c text =>
      have hPoint : c ≠ '.' := (hHead c (by rw [hText]; rfl)).2
      simp [readFraction, hPoint]
  | some digits =>
    have hDigits : IsDigits digits := hn.behind digits hBehind
    have hTake := takeWhile_digits hDigits fun c hc => (hHead c hc).1
    have hSome : digits.isEmpty = false := List.isEmpty_eq_false_iff.mpr hDigits.1
    rw [hBehind] at hExponent
    rw [fractionChars, hBehind, Option.elim_some, List.cons_append, readFraction]
    simp only [hTake, hSome, Bool.false_eq_true, if_false, List.drop_left, hExponent]

theorem readNumber_eq (hn : n.IsWritten) (hRest : EndsBefore rest) :
    readNumber n.isNegative (n.before ++ (n.fractionChars ++ (n.exponentChars ++ rest))) =
      (.number n.token, some rest) := by
  have hFraction := readFraction_eq hn hRest
  have hHead : ∀ c ∈ (n.fractionChars ++ (n.exponentChars ++ rest)).head?, isDigit c = false := by
    cases hBehind : n.behind with
    | none =>
      rw [fractionChars, hBehind, Option.elim_none, List.nil_append]
      exact fun c hc => (head?_exponentChars hn hRest c hc).1
    | some digits =>
      rw [fractionChars, hBehind]
      intro c hc
      obtain rfl := Option.some.inj hc
      decide
  generalize n.fractionChars ++ (n.exponentChars ++ rest) = tail at hFraction hHead ⊢
  have hTake := takeWhile_digits hn.before hHead
  by_cases hZero : n.before.head? = some '0'
  · have hBefore := hn.zero hZero
    have hNone : tail.head?.any isDigit = false := by
      cases hFirst : tail.head? with
      | none => rfl
      | some c => exact hHead c hFirst
    rw [hBefore] at hFraction ⊢
    rw [List.singleton_append, readNumber]
    simp only [hNone, Bool.false_eq_true, if_false, hFraction]
  · obtain ⟨d, digits, hBefore⟩ := List.exists_cons_of_ne_nil hn.before.1
    have hFirst : d ≠ '0' := by simpa [hBefore] using hZero
    rw [hBefore] at hTake hFraction ⊢
    rw [List.cons_append] at hTake ⊢
    simp [readNumber, hFirst, hTake, hFraction]

/-- A whole number as it is written. -/
def ofInt (i : Int) : NumberText := ⟨i < 0, Nat.toDigits 10 i.natAbs, none, none⟩

theorem chars_ofInt (i : Int) : (ofInt i).chars = Decimal.intText i := by
  rw [chars, signChars, Decimal.intText, ofInt]
  by_cases hNegative : i < 0 <;> simp [hNegative, fractionChars, exponentChars]

theorem isWritten_ofInt (i : Int) : (ofInt i).IsWritten where
  before := ⟨Nat.toDigits_ne_nil, isDigit_of_mem_toDigits⟩
  zero h := by
    rw [ofInt, eq_zero_of_head?_toDigits h]
    rfl
  behind _ h := by cases h
  exponent _ h := by cases h

theorem token_ofInt {i : Int} (hLeast : -(Number.mostNegative : Int) ≤ i) (hMost : i ≤ Number.mostNatural) :
    (ofInt i).token = .ok (Number.ofInt i) := by
  have hDigits : naturalOf (Nat.toDigits 10 i.natAbs ++ []) = i.natAbs := by
    rw [List.append_nil, naturalOf_toDigits]
  cases i with
  | ofNat n =>
    have hFits : n ≤ Number.mostNatural := Int.ofNat_le.mp hMost
    simp only [token, ofInt, Number.ofParts?, Option.getD_none, hDigits]
    simp [hFits, Number.ofInt]
  | negSucc n =>
    have hFits : n + 1 ≤ Number.mostNegative := by omega
    simp only [token, ofInt, Number.ofParts?, Option.getD_none, hDigits]
    simp [hFits, Number.ofInt]

end NumberText

end QuoteSearch.Json
