/-!
# Sets of code points

A set of code points is written as a list of closed intervals in increasing order, so a
look-up stops at the first interval that lies wholly above the point sought.
-/

namespace QuoteSearch.Text

/-- Whether a point lies in one of the intervals. -/
def covers : List (Nat × Nat) → Nat → Bool
  | [], _ => false
  | (lo, hi) :: rest, n => if n < lo then false else n ≤ hi || covers rest n

/-- Every interval is non-empty and lies wholly above the bound and above those before it. -/
def Increasing : Nat → List (Nat × Nat) → Prop
  | _, [] => True
  | bound, (lo, hi) :: rest => bound ≤ lo ∧ lo ≤ hi ∧ Increasing (hi + 1) rest

theorem not_covers_of_lt {rest : List (Nat × Nat)} {bound n : Nat}
    (h : Increasing bound rest) (hn : n < bound) : covers rest n = false := by
  cases rest with
  | nil => rfl
  | cons p rest =>
    obtain ⟨lo, hi⟩ := p
    have hlo : n < lo := Nat.lt_of_lt_of_le hn h.1
    simp [covers, hlo]

theorem covers_iff_exists_mem {intervals : List (Nat × Nat)} {bound n : Nat}
    (h : Increasing bound intervals) :
    covers intervals n = true ↔ ∃ p ∈ intervals, p.1 ≤ n ∧ n ≤ p.2 := by
  induction intervals generalizing bound with
  | nil => simp [covers]
  | cons p rest ih =>
    obtain ⟨lo, hi⟩ := p
    obtain ⟨_, _, hrest⟩ := h
    by_cases hlo : n < lo
    · have hnone : covers rest n = false := not_covers_of_lt hrest (by omega)
      have hrest' := ih hrest
      rw [hnone] at hrest'
      have : ¬ ∃ p ∈ rest, p.1 ≤ n ∧ n ≤ p.2 := fun he => by simpa using hrest'.2 he
      simp only [covers, hlo, if_true, List.mem_cons, exists_eq_or_imp]
      constructor
      · simp
      · rintro (hc | hc)
        · exact absurd hc.1 (Nat.not_le_of_lt hlo)
        · exact absurd hc this
    · simp only [covers, hlo, if_false, List.mem_cons, exists_eq_or_imp, Bool.or_eq_true,
        decide_eq_true_eq, ih hrest]
      constructor
      · rintro (hc | hc)
        · exact Or.inl ⟨Nat.le_of_not_lt hlo, hc⟩
        · exact Or.inr hc
      · rintro (hc | hc)
        · exact Or.inl hc.2
        · exact Or.inr hc

end QuoteSearch.Text
