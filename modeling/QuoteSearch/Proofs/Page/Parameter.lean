import QuoteSearch.Page
import QuoteSearch.Proofs.Text.Digit
import QuoteSearch.Proofs.Text.Trim

/-! # Page parameters

A page parameter that spells a whole number of 64 bits asks for the page nearest to the number, and any
other parameter for the first page. So the page grows with the number as long as 64 bits hold it.
-/

namespace QuoteSearch.Page

open Text

/-- The signs that may stand in front of a number. Zero takes each of them. -/
inductive SignOf (n : Int) : List Char → Prop where
  | none (h : 0 ≤ n) : SignOf n []
  | plus (h : 0 ≤ n) : SignOf n ['+']
  | minus (h : n ≤ 0) : SignOf n ['-']

/-- A sign, any number of zeros, and the number in decimal. -/
inductive IsNumeral (n : Int) : List Char → Prop where
  | intro {sign : List Char} (hSign : SignOf n sign) (zeros : Nat) :
      IsNumeral n (sign ++ (List.replicate zeros '0' ++ Nat.toDigits 10 n.natAbs))

/-- A text spells a number by a numeral with blanks around it. -/
def Spells (text : List Char) (n : Int) : Prop :=
  ∃ before numeral after, (∀ c ∈ before, isBlank c = true) ∧ (∀ c ∈ after, isBlank c = true) ∧
    text = before ++ (numeral ++ after) ∧ IsNumeral n numeral

variable {text digits sign : List Char} {n : Int}

theorem SignOf.not_blank (h : SignOf n sign) : ∀ c ∈ sign, isBlank c = false := by
  cases h with
  | none _ => exact List.forall_mem_nil _
  | plus _ => exact List.forall_mem_singleton.mpr rfl
  | minus _ => exact List.forall_mem_singleton.mpr rfl

theorem IsNumeral.trimmed (h : IsNumeral n text) : trimBlanks text = text := by
  obtain ⟨hSign, zeros⟩ := h
  apply trimBlanks_of_not_blank
  intro c hc
  rcases List.mem_append.mp hc with hc | hc
  · exact hSign.not_blank c hc
  · exact isBlank_of_isDigit (isDigit_of_mem_zeros_append c hc)

theorem spells_iff : Spells text n ↔ IsNumeral n (trimBlanks text) := by
  constructor
  · rintro ⟨before, numeral, after, hBefore, hAfter, rfl, hNumeral⟩
    rwa [trimBlanks_blanks_append hBefore hAfter, hNumeral.trimmed]
  · intro h
    obtain ⟨before, after, hBefore, hAfter, hText⟩ := exists_blanks_append text
    exact ⟨before, trimBlanks text, after, hBefore, hAfter, hText, h⟩

/-- The number spelled by at least one digit, if it is not beyond the limit. -/
def number? (limit : Nat) (digits : List Char) : Option Nat :=
  if !digits.isEmpty && digits.all isDigit && naturalOf digits ≤ limit then some (naturalOf digits) else none

theorem number?_eq_some_iff {limit m : Nat} :
    number? limit digits = some m ↔
      m ≤ limit ∧ ∃ zeros, digits = List.replicate zeros '0' ++ Nat.toDigits 10 m := by
  simp only [number?, Option.ite_none_right_eq_some, Bool.and_eq_true, Bool.not_eq_true', List.isEmpty_eq_false_iff,
    List.all_eq_true, decide_eq_true_eq, Option.some.injEq]
  constructor
  · rintro ⟨⟨⟨hNonempty, hDigits⟩, hLimit⟩, rfl⟩
    exact ⟨hLimit, exists_zeros_append hNonempty hDigits⟩
  · rintro ⟨hLimit, zeros, rfl⟩
    rw [naturalOf_zeros_append]
    refine ⟨⟨⟨?_, isDigit_of_mem_zeros_append⟩, hLimit⟩, rfl⟩
    exact List.append_ne_nil_of_right_ne_nil _ Nat.toDigits_ne_nil

theorem map_cast (m : Option Nat) (f : Int → Int) :
    (do let a ← m; pure (a : Int)).map f = m.map fun a : Nat => f a := by
  cases m <;> rfl

theorem spelled?_plus (digits : List Char) :
    spelled? ('+' :: digits) = (number? mostSpelled digits).map fun m : Nat => (m : Int) :=
  map_cast (number? mostSpelled digits) id

theorem spelled?_minus (digits : List Char) :
    spelled? ('-' :: digits) = (number? leastSpelled digits).map fun m : Nat => -(m : Int) :=
  map_cast (number? leastSpelled digits) Neg.neg

theorem spelled?_unsigned (hPlus : ∀ rest, digits ≠ '+' :: rest) (hMinus : ∀ rest, digits ≠ '-' :: rest) :
    spelled? digits = (number? mostSpelled digits).map fun m : Nat => (m : Int) := by
  rw [spelled?.eq_3 digits hPlus hMinus]
  exact map_cast (number? mostSpelled digits) id

theorem zeros_append_ne_cons {c : Char} (hc : isDigit c = false) (zeros m : Nat) (rest : List Char) :
    List.replicate zeros '0' ++ Nat.toDigits 10 m ≠ c :: rest := by
  intro hEq
  have hDigit : isDigit c = true := isDigit_of_mem_zeros_append c (hEq ▸ List.mem_cons_self)
  rw [hc] at hDigit
  cases hDigit

/-- A numeral is read as its number exactly if 64 bits hold the number. -/
theorem spelled?_eq_some_iff :
    spelled? text = some n ↔ IsNumeral n text ∧ -(leastSpelled : Int) ≤ n ∧ n ≤ mostSpelled := by
  constructor
  · intro h
    by_cases hPlus : ∃ rest, text = '+' :: rest
    · obtain ⟨rest, rfl⟩ := hPlus
      rw [spelled?_plus] at h
      obtain ⟨m, hm, rfl⟩ := Option.map_eq_some_iff.mp h
      obtain ⟨hLimit, zeros, rfl⟩ := number?_eq_some_iff.mp hm
      exact ⟨.intro (.plus (Int.natCast_nonneg m)) zeros, by omega, by omega⟩
    · by_cases hMinus : ∃ rest, text = '-' :: rest
      · obtain ⟨rest, rfl⟩ := hMinus
        rw [spelled?_minus] at h
        obtain ⟨m, hm, rfl⟩ := Option.map_eq_some_iff.mp h
        obtain ⟨hLimit, zeros, rfl⟩ := number?_eq_some_iff.mp hm
        have hNumeral := IsNumeral.intro (SignOf.minus (n := -(m : Int)) (by omega)) zeros
        rw [Int.natAbs_neg, Int.natAbs_natCast] at hNumeral
        exact ⟨hNumeral, by omega, by omega⟩
      · rw [spelled?_unsigned (not_exists.mp hPlus) (not_exists.mp hMinus)] at h
        obtain ⟨m, hm, rfl⟩ := Option.map_eq_some_iff.mp h
        obtain ⟨hLimit, zeros, rfl⟩ := number?_eq_some_iff.mp hm
        exact ⟨.intro (.none (Int.natCast_nonneg m)) zeros, by omega, by omega⟩
  · rintro ⟨⟨hSign, zeros⟩, hLeast, hMost⟩
    cases hSign with
    | none h =>
      have hNumber := number?_eq_some_iff.mpr ⟨(by omega : n.natAbs ≤ mostSpelled), zeros, rfl⟩
      rw [List.nil_append, spelled?_unsigned (zeros_append_ne_cons (by decide) _ _)
        (zeros_append_ne_cons (by decide) _ _), hNumber, Option.map_some, Int.natAbs_of_nonneg h]
    | plus h =>
      have hNumber := number?_eq_some_iff.mpr ⟨(by omega : n.natAbs ≤ mostSpelled), zeros, rfl⟩
      rw [List.singleton_append, spelled?_plus, hNumber, Option.map_some, Int.natAbs_of_nonneg h]
    | minus h =>
      have hNumber := number?_eq_some_iff.mpr ⟨(by omega : n.natAbs ≤ leastSpelled), zeros, rfl⟩
      rw [List.singleton_append, spelled?_minus, hNumber, Option.map_some, Int.ofNat_natAbs_of_nonpos h, Int.neg_neg]

def numeralValue : List Char → Int
  | '+' :: digits => naturalOf digits
  | '-' :: digits => -(naturalOf digits : Int)
  | digits => naturalOf digits

/-- A text is the numeral of one number only. -/
theorem IsNumeral.value_eq (h : IsNumeral n text) : numeralValue text = n := by
  obtain ⟨hSign, zeros⟩ := h
  cases hSign with
  | none h =>
    rw [List.nil_append, numeralValue.eq_3 _ (zeros_append_ne_cons (by decide) _ _)
      (zeros_append_ne_cons (by decide) _ _), naturalOf_zeros_append, Int.natAbs_of_nonneg h]
  | plus h => rw [List.singleton_append, numeralValue, naturalOf_zeros_append, Int.natAbs_of_nonneg h]
  | minus h =>
    rw [List.singleton_append, numeralValue, naturalOf_zeros_append, Int.ofNat_natAbs_of_nonpos h, Int.neg_neg]

theorem toNat_clamp (n : Int) : ((clamp n).toNat : Int) = min (max n 1) largestNumber := by
  have hMost : (min (max n 1) largestNumber).toNat < UInt32.size := by
    have hLargest : largestNumber < UInt32.size := by decide
    omega
  rw [clamp, UInt32.toNat_ofNat_of_lt' hMost, Int.toNat_of_nonneg]
  omega

theorem clamp_of_le_one (h : n ≤ 1) : clamp n = 1 := by
  have hLargest : min (max n 1) largestNumber = 1 := by
    have hPos : 1 ≤ largestNumber := by decide
    omega
  rw [clamp, hLargest]
  rfl

theorem clamp_mono {m : Int} (h : m ≤ n) : clamp m ≤ clamp n := by
  rw [UInt32.le_iff_toNat_le]
  have hm := toNat_clamp m
  have hn := toNat_clamp n
  omega

theorem numberOfParam_of_spelled {param : String} (h : spelled? (trimBlanks param.toList) = some n) :
    numberOfParam (some param) = clamp n := by
  rw [numberOfParam, Option.bind_some, h]

theorem numberOfParam_of_not_spelled {param : String}
    (h : ∀ n, spelled? (trimBlanks param.toList) ≠ some n) : numberOfParam (some param) = 1 := by
  rw [numberOfParam, Option.bind_some, Option.eq_none_iff_forall_ne_some.mpr h]

/-- What a parameter asks for if it spells a number. The numbers that are too small for 64 bits are not
read, and the first page is the nearest to them. -/
theorem numberOfParam_of_spells {param : String} (h : Spells param.toList n) :
    numberOfParam (some param) = if n ≤ mostSpelled then clamp n else 1 := by
  rw [spells_iff] at h
  have hUnread : ¬ (-(leastSpelled : Int) ≤ n ∧ n ≤ mostSpelled) → numberOfParam (some param) = 1 := by
    intro hBeyond
    apply numberOfParam_of_not_spelled
    intro m hm
    obtain ⟨hNumeral, hBounds⟩ := spelled?_eq_some_iff.mp hm
    rw [← hNumeral.value_eq, h.value_eq] at hBounds
    exact hBeyond hBounds
  split
  · rename_i hMost
    by_cases hLeast : -(leastSpelled : Int) ≤ n
    · exact numberOfParam_of_spelled (spelled?_eq_some_iff.mpr ⟨h, hLeast, hMost⟩)
    · rw [hUnread fun hBounds => hLeast hBounds.1, clamp_of_le_one]
      omega
  · rename_i hMost
    exact hUnread fun hBounds => hMost hBounds.2

theorem numberOfParam_of_not_spells {param : String} (h : ∀ n, ¬ Spells param.toList n) :
    numberOfParam (some param) = 1 := by
  apply numberOfParam_of_not_spelled
  intro n hn
  exact h n (spells_iff.mpr (spelled?_eq_some_iff.mp hn).1)

/-- How the page follows from the parameter. -/
structure FollowsParameter (param : String) : Prop where
  clamped : ∀ n, Spells param.toList n →
    (((numberOfParam (some param)).toNat : Int) = min (max n 1) largestNumber ↔ n ≤ mostSpelled)
  monotone : ∀ (param' : String) (n n' : Int), Spells param.toList n → Spells param'.toList n' →
    n ≤ n' → n' ≤ mostSpelled → numberOfParam (some param) ≤ numberOfParam (some param')
  beyond : ∀ n, Spells param.toList n → mostSpelled < n → numberOfParam (some param) = 1
  noNumber : (∀ n, ¬ Spells param.toList n) → numberOfParam (some param) = 1
  absent : numberOfParam none = 1

theorem page_follows_parameter (param : String) : FollowsParameter param where
  clamped n h := by
    rw [numberOfParam_of_spells h]
    split
    · rename_i hMost
      exact iff_of_true (toNat_clamp n) hMost
    · rename_i hBeyond
      -- The nearest page to such a number is the last one.
      have hFirst : ((1 : UInt32).toNat : Int) = 1 := rfl
      have hLast : 1 < (largestNumber : Int) := by decide
      have hLarge : (largestNumber : Int) ≤ mostSpelled := by decide
      refine iff_of_false ?_ hBeyond
      rw [hFirst]
      omega
  monotone := by
    intro param' n n' h h' hLe hMost
    rw [numberOfParam_of_spells h, numberOfParam_of_spells h', if_pos (hLe.trans hMost), if_pos hMost]
    exact clamp_mono hLe
  beyond n h hBeyond := by
    rw [numberOfParam_of_spells h, if_neg (Int.not_le.mpr hBeyond)]
  noNumber := numberOfParam_of_not_spells
  absent := rfl

theorem spells_seven : Spells " +007\u3000".toList 7 :=
  ⟨[' '], "+007".toList, ['\u3000'], List.forall_mem_singleton.mpr rfl, List.forall_mem_singleton.mpr rfl, rfl,
    .intro (.plus (by decide)) 2⟩

theorem sample_page_follows_parameter :
    Spells " +007\u3000".toList 7 ∧ (7 : Int) ≤ mostSpelled ∧
      ((numberOfParam (some " +007\u3000")).toNat : Int) = 7 :=
  ⟨spells_seven, by decide, ((page_follows_parameter _).clamped 7 spells_seven).mpr (by decide)⟩

/-- The first number that is too large for 64 bits asks for the first page and not for the last. -/
theorem page_of_large_number_is_first :
    ¬ ∀ (param : String) (n : Int), Spells param.toList n →
      ((numberOfParam (some param)).toNat : Int) = min (max n 1) largestNumber := by
  intro hClaim
  have hSpells : Spells "9223372036854775808".toList 9223372036854775808 :=
    ⟨[], "9223372036854775808".toList, [], List.forall_mem_nil _, List.forall_mem_nil _, rfl,
      .intro (.none (by decide)) 0⟩
  have hFirst : numberOfParam (some "9223372036854775808") = 1 := by decide
  have hLast := hClaim _ _ hSpells
  rw [hFirst] at hLast
  exact absurd hLast (by decide)

end QuoteSearch.Page
