import QuoteSearch.Proofs.Html.Escape

/-! # Escaping in parts

A text that is cut in two and escaped part by part reads like the escaped text, unless the cut falls
within one of its character references. The ampersand of such a reference is then escaped itself, so
the parts are longer than the whole.
-/

namespace QuoteSearch.Html

/-- A cut at the position falls within a character reference of the text. -/
def CutsReference (text : List Char) (position : Nat) : Prop :=
  ∃ before reference after, text = before ++ (reference ++ after) ∧ IsReference reference ∧
    before.length < position ∧ position < before.length + reference.length

/-- A reference begins where the text begins and goes on behind the position. -/
def BeginsReference (text : List Char) (position : Nat) : Prop :=
  ∃ reference after, text = reference ++ after ∧ IsReference reference ∧ position < reference.length

variable {front back : List Char}

theorem not_cutsReference_zero (text : List Char) : ¬ CutsReference text 0 := by
  rintro ⟨before, reference, after, -, -, hBefore, -⟩
  exact Nat.not_lt_zero _ hBefore

theorem cutsReference_cons_iff {c : Char} {text : List Char} {position : Nat} :
    CutsReference (c :: text) (position + 1) ↔
      BeginsReference (c :: text) (position + 1) ∨ CutsReference text position := by
  constructor
  · rintro ⟨before, reference, after, hText, hReference, hBefore, hAfter⟩
    cases before with
    | nil => exact .inl ⟨reference, after, hText, hReference, by simpa using hAfter⟩
    | cons d before =>
      simp only [List.length_cons] at hBefore hAfter
      exact .inr ⟨before, reference, after, (List.cons.inj hText).2, hReference, by omega, by omega⟩
  · rintro (⟨reference, after, hText, hReference, hAfter⟩ |
      ⟨before, reference, after, rfl, hReference, hBefore, hAfter⟩)
    · exact ⟨[], reference, after, hText, hReference, Nat.succ_pos _, by simpa using hAfter⟩
    · refine ⟨c :: before, reference, after, rfl, hReference, ?_, ?_⟩
      · simp only [List.length_cons]
        omega
      · simp only [List.length_cons]
        omega

theorem IsReference.exists_body {reference : List Char} (h : IsReference reference) :
    ∃ body, reference = '&' :: body := by
  cases h <;> exact ⟨_, rfl⟩

/-- What stands behind the end of a reference does not matter. -/
theorem isSome_referenceLength?_append (h : ¬ BeginsReference ('&' :: (front ++ back)) (front.length + 1)) :
    (referenceLength? (front ++ back)).isSome = (referenceLength? front).isSome := by
  rw [Bool.eq_iff_iff, Option.isSome_iff_exists, Option.isSome_iff_exists]
  refine exists_congr fun n => ?_
  rw [referenceLength?_eq_some_iff, referenceLength?_eq_some_iff]
  constructor
  · rintro ⟨body, tail, hText, rfl, hReference⟩
    have hShort : body.length ≤ front.length := by
      by_contra hLong
      refine h ⟨'&' :: body, tail, congrArg _ hText, hReference, ?_⟩
      simp only [List.length_cons]
      omega
    obtain ⟨tail', rfl⟩ : body <+: front :=
      List.prefix_of_prefix_length_le ⟨tail, hText.symm⟩ (List.prefix_append front back) hShort
    exact ⟨body, tail', rfl, rfl, hReference⟩
  · rintro ⟨body, tail, rfl, rfl, hReference⟩
    exact ⟨body, tail ++ back, List.append_assoc _ _ _, rfl, hReference⟩

theorem escapeChar_append_of_not_begins {c : Char}
    (h : ¬ BeginsReference (c :: (front ++ back)) (front.length + 1)) :
    escapeChar c (front ++ back) = escapeChar c front := by
  by_cases hc : c = '&'
  · subst hc
    rw [escapeChar, if_pos rfl, isSome_referenceLength?_append h, escapeChar, if_pos rfl]
  · simp only [escapeChar, if_neg hc]

/-- The ampersand of a reference that is cut is not that of a reference any more. -/
theorem length_escapeChar_lt {c : Char} (h : BeginsReference (c :: (front ++ back)) (front.length + 1)) :
    (escapeChar c (front ++ back)).length < (escapeChar c front).length := by
  obtain ⟨reference, after, hText, hReference, hLong⟩ := h
  obtain ⟨body, rfl⟩ := hReference.exists_body
  obtain ⟨rfl, hRest⟩ := List.cons.inj hText
  have hWhole : referenceLength? (front ++ back) = some body.length := by
    rw [hRest]
    exact referenceLength?_of_reference hReference after
  have hPart : referenceLength? front = none := by
    rw [Option.eq_none_iff_forall_ne_some]
    intro n hn
    obtain ⟨body', tail, rfl, -, hReference'⟩ := referenceLength?_eq_some_iff.mp hn
    have hSame := referenceLength?_of_reference hReference' (tail ++ back)
    rw [← List.append_assoc, hWhole, Option.some.injEq] at hSame
    simp only [List.length_cons, List.length_append] at hLong
    omega
  simp [escapeChar, hWhole, hPart]

theorem length_escapeChar_le (c : Char) (front back : List Char) :
    (escapeChar c (front ++ back)).length ≤ (escapeChar c front).length := by
  by_cases h : BeginsReference (c :: (front ++ back)) (front.length + 1)
  · exact Nat.le_of_lt (length_escapeChar_lt h)
  · rw [escapeChar_append_of_not_begins h]

theorem escape_append (h : ¬ CutsReference (front ++ back) front.length) :
    escape (front ++ back) = escape front ++ escape back := by
  induction front with
  | nil => rfl
  | cons c front ih =>
    rw [List.cons_append, List.length_cons, cutsReference_cons_iff, not_or] at h
    rw [List.cons_append, escape, escape, ih h.2, escapeChar_append_of_not_begins h.1, List.append_assoc]

theorem length_escape_append_le (front back : List Char) :
    (escape (front ++ back)).length ≤ (escape front ++ escape back).length := by
  induction front with
  | nil => exact Nat.le_refl _
  | cons c front ih =>
    have hChar := length_escapeChar_le c front back
    simp only [List.cons_append, escape, List.length_append] at ih ⊢
    omega

theorem length_escape_append_lt (h : CutsReference (front ++ back) front.length) :
    (escape (front ++ back)).length < (escape front ++ escape back).length := by
  induction front with
  | nil => exact absurd h (not_cutsReference_zero back)
  | cons c front ih =>
    rw [List.cons_append, List.length_cons, cutsReference_cons_iff] at h
    have hChar := length_escapeChar_le c front back
    have hRest := length_escape_append_le front back
    simp only [List.cons_append, escape, List.length_append] at ih hRest ⊢
    rcases h with hBegins | hCuts
    · have hLess := length_escapeChar_lt hBegins
      omega
    · have hLess := ih hCuts
      omega

/-- One cut: what stands for the back may itself be longer than the back escaped as a whole. -/
theorem escape_append_eq_iff {escaped : List Char} (hLong : (escape back).length ≤ escaped.length) :
    escape front ++ escaped = escape (front ++ back) ↔
      ¬ CutsReference (front ++ back) front.length ∧ escaped = escape back := by
  constructor
  · intro hEq
    have hWhole : ¬ CutsReference (front ++ back) front.length := by
      intro hCuts
      have hLess := length_escape_append_lt hCuts
      rw [← hEq] at hLess
      simp only [List.length_append] at hLess
      omega
    exact ⟨hWhole, List.append_cancel_left (hEq.trans (escape_append hWhole))⟩
  · rintro ⟨hWhole, rfl⟩
    exact (escape_append hWhole).symm

/-- Behind a cut that spares the references it is those of the back that can be cut. -/
theorem cutsReference_append_iff (h : ¬ CutsReference (front ++ back) front.length) {position : Nat} :
    CutsReference (front ++ back) (front.length + position) ↔ CutsReference back position := by
  constructor
  · rintro ⟨before, reference, after, hText, hReference, hBefore, hAfter⟩
    by_cases hFront : before.length < front.length
    · exact absurd ⟨before, reference, after, hText, hReference, hFront, by omega⟩ h
    · obtain ⟨before', rfl⟩ : front <+: before :=
        List.prefix_of_prefix_length_le (hText ▸ List.prefix_append front back) (List.prefix_append before _)
          (Nat.le_of_not_lt hFront)
      rw [List.append_assoc, List.append_cancel_left_eq] at hText
      simp only [List.length_append] at hBefore hAfter
      exact ⟨before', reference, after, hText, hReference, by omega, by omega⟩
  · rintro ⟨before, reference, after, rfl, hReference, hBefore, hAfter⟩
    refine ⟨front ++ before, reference, after, (List.append_assoc _ _ _).symm, hReference, ?_, ?_⟩
    · simp only [List.length_append]
      omega
    · simp only [List.length_append]
      omega

end QuoteSearch.Html
