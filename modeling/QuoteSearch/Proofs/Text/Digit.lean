import QuoteSearch.Text.Blank
import QuoteSearch.Text.Digit
import Mathlib.Algebra.Order.Group.Nat
import Mathlib.Data.List.Induction

/-! # Written numbers

A number written with zeros in front spells itself, and it has exactly the digits that were asked
for if it fits into them. All digits are such a writing of the number they spell.
-/

namespace QuoteSearch.Text

theorem isBlank_of_isDigit {c : Char} (h : isDigit c = true) : isBlank c = false := by
  have hDigits : ∀ n < 58, 48 ≤ n → isBlank (Char.ofNat n) = false := by decide
  obtain ⟨hLeast, hMost⟩ := isDigit_iff.mp h
  rw [← Char.ofNat_toNat c]
  exact hDigits c.toNat (by omega) hLeast

theorem naturalOf_eq_ofDigitChars (digits : List Char) : naturalOf digits = Nat.ofDigitChars 10 digits 0 := rfl

theorem naturalOf_append (a b : List Char) :
    naturalOf (a ++ b) = naturalOf a * 10 ^ b.length + naturalOf b := by
  simp only [naturalOf_eq_ofDigitChars, Nat.ofDigitChars_append]
  rw [Nat.ofDigitChars_eq_ofDigitChars_zero, Nat.mul_comm]

theorem naturalOf_lt {digits : List Char} (h : ∀ c ∈ digits, isDigit c = true) :
    naturalOf digits < 10 ^ digits.length := by
  induction digits using List.reverseRecOn with
  | nil => exact Nat.one_pos
  | append_singleton digits c ih =>
    have hLast : digitValue c < 10 := digitValue_lt (h c (by simp))
    have hFront := ih fun d hd => h d (List.mem_append_left _ hd)
    rw [naturalOf_concat, List.length_append, List.length_singleton, Nat.pow_succ]
    omega

theorem isDigit_of_mem_toDigits {n : Nat} : ∀ c ∈ Nat.toDigits 10 n, isDigit c = true := by
  intro c hc
  have hDigit := Nat.isDigit_of_mem_toDigits (by decide) (by decide) hc
  exact hDigit

theorem eq_zero_of_head?_toDigits {n : Nat} (h : (Nat.toDigits 10 n).head? = some '0') : n = 0 := by
  induction n using Nat.strong_induction_on with
  | h n ih =>
    by_cases hOne : n < 10
    · rw [Nat.toDigits_of_lt_base hOne] at h
      exact Nat.digitChar_eq_zero.mp (Option.some.inj h)
    · have hFront : (Nat.toDigits 10 (n / 10)).head? = some '0' := by
        rw [Nat.toDigits_of_base_le (by decide) (by omega)] at h
        obtain ⟨d, digits, hDigits⟩ := List.exists_cons_of_ne_nil (Nat.toDigits_ne_nil (b := 10) (n := n / 10))
        rw [hDigits] at h ⊢
        exact h
      have hNone : n / 10 = 0 := ih (n / 10) (by omega) hFront
      omega

theorem isDigit_of_mem_zeros_append {zeros n : Nat} :
    ∀ c ∈ List.replicate zeros '0' ++ Nat.toDigits 10 n, isDigit c = true := by
  intro c hc
  rcases List.mem_append.mp hc with hc | hc
  · rw [List.eq_of_mem_replicate hc]
    decide
  · exact isDigit_of_mem_toDigits c hc

theorem naturalOf_zeros_append (zeros n : Nat) :
    naturalOf (List.replicate zeros '0' ++ Nat.toDigits 10 n) = n := by
  rw [naturalOf_eq_ofDigitChars, Nat.ofDigitChars_append, Nat.ofDigitChars_replicate_zero, Nat.mul_zero,
    Nat.ofDigitChars_ten_toDigits]

theorem naturalOf_toDigits (n : Nat) : naturalOf (Nat.toDigits 10 n) = n := naturalOf_zeros_append 0 n

theorem naturalOf_padded (width n : Nat) : naturalOf (padded width n) = n := naturalOf_zeros_append _ n

theorem isDigit_of_mem_padded {width n : Nat} : ∀ c ∈ padded width n, isDigit c = true :=
  isDigit_of_mem_zeros_append

theorem length_padded_le_iff {width n k : Nat} (hk : 0 < k) :
    (padded width n).length ≤ k ↔ width ≤ k ∧ n < 10 ^ k := by
  rw [← Nat.length_toDigits_le_iff (by decide) hk, padded, List.length_append, List.length_replicate]
  omega

theorem length_padded {width n : Nat} (hWidth : 0 < width) (h : n < 10 ^ width) :
    (padded width n).length = width :=
  Nat.le_antisymm ((length_padded_le_iff hWidth).mpr ⟨Nat.le_refl width, h⟩) (le_length_padded width n)

theorem toDigits_digitValue {c : Char} (h : isDigit c = true) : Nat.toDigits 10 (digitValue c) = [c] := by
  have hValue := digitValue_lt h
  rw [Nat.toDigits_of_lt_base hValue]
  congr 1
  apply Char.toNat_inj.mp
  rw [Nat.toNat_digitChar_of_lt_ten hValue, digitValue]
  have hDigit := isDigit_iff.mp h
  have hZero : '0'.toNat = 48 := rfl
  omega

/-- Digits are the written form of the number they spell, behind some zeros. -/
theorem exists_zeros_append {digits : List Char} (hNonempty : digits ≠ [])
    (h : ∀ c ∈ digits, isDigit c = true) :
    ∃ zeros, digits = List.replicate zeros '0' ++ Nat.toDigits 10 (naturalOf digits) := by
  induction digits using List.reverseRecOn with
  | nil => exact absurd rfl hNonempty
  | append_singleton digits c ih =>
    have hc : isDigit c = true := h c (by simp)
    rw [naturalOf_concat]
    by_cases hFirst : digits = []
    · subst hFirst
      exact ⟨0, by simp [toDigits_digitValue hc]⟩
    · obtain ⟨zeros, hZeros⟩ := ih hFirst fun d hd => h d (List.mem_append_left _ hd)
      rcases Nat.eq_zero_or_pos (naturalOf digits) with hNone | hSome
      · refine ⟨zeros + 1, ?_⟩
        rw [hNone] at hZeros ⊢
        rw [Nat.mul_zero, Nat.zero_add, toDigits_digitValue hc, hZeros, List.replicate_succ']
        rfl
      · refine ⟨zeros, ?_⟩
        rw [← Nat.toDigits_append_toDigits (by decide) hSome (digitValue_lt hc), toDigits_digitValue hc,
          ← List.append_assoc, ← hZeros]

end QuoteSearch.Text
