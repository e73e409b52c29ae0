import QuoteSearch.Proofs.Html.Reference

/-! # Escaped text is safe

Escaped text has no character that means something in HTML, except for ampersands, and each of
these begins a character reference that ends within the text. So escaped texts may be joined, and
be put between tags, and still mean the characters that they stand for.
-/

namespace QuoteSearch.Html

/-- The characters that delimit tags and attributes. -/
def delimiters : List Char := ['<', '>', '"', '\'']

structure IsSafe (text : List Char) : Prop where
  noDelimiter : ∀ c ∈ text, c ∉ delimiters
  ampersand : ∀ before after, text = before ++ '&' :: after →
    ∃ body tail, after = body ++ tail ∧ IsReference ('&' :: body)

/-- Escaping does nothing to such a character. -/
def IsOrdinary (c : Char) : Prop := c ∉ delimiters ∧ c ≠ '&'

theorem isOrdinary_of_member {isMember : Char → Bool}
    (h : ('&' :: delimiters).all (fun c => !isMember c) = true) {c : Char} (hc : isMember c = true) :
    IsOrdinary c := by
  have hNot : c ∉ '&' :: delimiters := by
    intro hMem
    simpa [hc] using List.all_eq_true.mp h c hMem
  exact ⟨fun hMem => hNot (List.mem_cons_of_mem _ hMem), fun hEq => hNot (hEq ▸ List.mem_cons_self)⟩

theorem IsRun.isOrdinary {isMember : Char → Bool} {least most : Nat} {body : List Char}
    (hRun : IsRun isMember least most body) (h : ('&' :: delimiters).all (fun c => !isMember c) = true) :
    ∀ c ∈ body, IsOrdinary c := by
  obtain ⟨run, rfl, hMembers, _⟩ := hRun
  intro c hc
  rcases List.mem_append.mp hc with hc | hc
  · exact isOrdinary_of_member h (hMembers c hc)
  · rw [List.mem_singleton.mp hc]
    exact ⟨by decide, by decide⟩

theorem IsReference.isOrdinary {body : List Char} (h : IsReference ('&' :: body)) :
    ∀ c ∈ body, IsOrdinary c := by
  cases h with
  | name hc h =>
    exact List.forall_mem_cons.mpr
      ⟨isOrdinary_of_member (by decide) hc, h.isOrdinary (by decide)⟩
  | decimal h =>
    exact List.forall_mem_cons.mpr ⟨⟨by decide, by decide⟩, h.isOrdinary (by decide)⟩
  | hexadecimal hx h =>
    refine List.forall_mem_cons.mpr ⟨⟨by decide, by decide⟩, List.forall_mem_cons.mpr ⟨?_, h.isOrdinary (by decide)⟩⟩
    rcases hx with rfl | rfl <;> exact ⟨by decide, by decide⟩

theorem isReference_amp : IsReference "&amp;".toList :=
  .name (by decide) (isRun_of_all ['m', 'p'] (by decide) (by decide) (by decide))

theorem isReference_lt : IsReference "&lt;".toList :=
  .name (by decide) (isRun_of_all ['t'] (by decide) (by decide) (by decide))

theorem isReference_gt : IsReference "&gt;".toList :=
  .name (by decide) (isRun_of_all ['t'] (by decide) (by decide) (by decide))

theorem isReference_quot : IsReference "&quot;".toList :=
  .name (by decide) (isRun_of_all ['u', 'o', 't'] (by decide) (by decide) (by decide))

theorem isReference_apostrophe : IsReference "&#x27;".toList :=
  .hexadecimal (.inl rfl) (isRun_of_all ['2', '7'] (by decide) (by decide) (by decide))

theorem isSafe_nil : IsSafe [] where
  noDelimiter := by simp
  ampersand := by simp

theorem isSafe_ordinary {c : Char} (h : IsOrdinary c) {text : List Char} (hText : IsSafe text) :
    IsSafe (c :: text) where
  noDelimiter := List.forall_mem_cons.mpr ⟨h.1, hText.noDelimiter⟩
  ampersand before after hEq := by
    cases before with
    | nil => exact absurd (List.cons.inj hEq).1 h.2
    | cons d before => exact hText.ampersand before after (List.cons.inj hEq).2

theorem isSafe_ampersand {body tail : List Char} (h : IsReference ('&' :: body))
    (hText : IsSafe (body ++ tail)) : IsSafe ('&' :: (body ++ tail)) where
  noDelimiter := List.forall_mem_cons.mpr ⟨by decide, hText.noDelimiter⟩
  ampersand before after hEq := by
    cases before with
    | nil => exact ⟨body, tail, (List.cons.inj hEq).2.symm, h⟩
    | cons d before => exact hText.ampersand before after (List.cons.inj hEq).2

theorem isSafe_reference {reference : List Char} (h : IsReference reference) {text : List Char}
    (hText : IsSafe text) : IsSafe (reference ++ text) := by
  have hBody : ∀ body, (∀ c ∈ body, IsOrdinary c) → IsSafe (body ++ text) := by
    intro body hOrdinary
    induction body with
    | nil => exact hText
    | cons c body ih =>
      have hSplit := List.forall_mem_cons.mp hOrdinary
      exact isSafe_ordinary hSplit.1 (ih hSplit.2)
  obtain ⟨body, rfl⟩ : ∃ body, reference = '&' :: body := by cases h <;> exact ⟨_, rfl⟩
  exact isSafe_ampersand h (hBody body h.isOrdinary)

theorem escapeChar_of_ordinary {c : Char} (h : IsOrdinary c) (rest : List Char) :
    escapeChar c rest = [c] := by
  obtain ⟨hDelimiter, hAmpersand⟩ := h
  simp only [delimiters, List.mem_cons, List.not_mem_nil, or_false, not_or] at hDelimiter
  simp [escapeChar, hDelimiter, hAmpersand]

theorem escape_append_of_ordinary {body : List Char} (h : ∀ c ∈ body, IsOrdinary c) (tail : List Char) :
    escape (body ++ tail) = body ++ escape tail := by
  induction body with
  | nil => rfl
  | cons c body ih =>
    obtain ⟨hc, hBody⟩ := List.forall_mem_cons.mp h
    rw [List.cons_append, escape, escapeChar_of_ordinary hc, ih hBody]
    rfl

theorem escapeChar_cases (c : Char) (rest : List Char) :
    IsReference (escapeChar c rest) ∨
      (c = '&' ∧ (referenceLength? rest).isSome ∧ escapeChar c rest = ['&']) ∨
      (IsOrdinary c ∧ escapeChar c rest = [c]) := by
  by_cases hDelimiter : c ∈ delimiters
  · left
    simp only [delimiters, List.mem_cons, List.not_mem_nil, or_false] at hDelimiter
    rcases hDelimiter with rfl | rfl | rfl | rfl
    · exact isReference_lt
    · exact isReference_gt
    · exact isReference_quot
    · exact isReference_apostrophe
  · by_cases hAmpersand : c = '&'
    · by_cases hKept : (referenceLength? rest).isSome
      · exact .inr (.inl ⟨hAmpersand, hKept, by simp [escapeChar, hAmpersand, hKept]⟩)
      · left
        simp only [escapeChar, hAmpersand, hKept, if_true, Bool.false_eq_true, if_false]
        exact isReference_amp
    · exact .inr (.inr ⟨⟨hDelimiter, hAmpersand⟩, escapeChar_of_ordinary ⟨hDelimiter, hAmpersand⟩ rest⟩)

theorem isSafe_escape (text : List Char) : IsSafe (escape text) := by
  induction text with
  | nil => exact isSafe_nil
  | cons c rest ih =>
    rw [escape]
    rcases escapeChar_cases c rest with hReference | ⟨-, hKept, hEq⟩ | ⟨hOrdinary, hEq⟩
    · exact isSafe_reference hReference ih
    · obtain ⟨n, hn⟩ := Option.isSome_iff_exists.mp hKept
      obtain ⟨body, tail, rfl, -, hReference⟩ := referenceLength?_eq_some_iff.mp hn
      rw [escape_append_of_ordinary hReference.isOrdinary] at ih ⊢
      rw [hEq, List.singleton_append]
      exact isSafe_ampersand hReference ih
    · rw [hEq]
      exact isSafe_ordinary hOrdinary ih

theorem escapeChar_ne_nil (c : Char) (rest : List Char) : escapeChar c rest ≠ [] := by
  rcases escapeChar_cases c rest with h | ⟨_, _, h⟩ | ⟨_, h⟩
  · intro hNil
    rw [hNil] at h
    cases h
  · simp [h]
  · simp [h]

theorem escape_ne_nil {text : List Char} (h : text ≠ []) : escape text ≠ [] := by
  obtain ⟨c, rest, rfl⟩ := List.exists_cons_of_ne_nil h
  rw [escape]
  exact List.append_ne_nil_of_left_ne_nil (escapeChar_ne_nil c rest) _

end QuoteSearch.Html
