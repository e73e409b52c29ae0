import QuoteSearch.Proofs.Highlight.Token
import QuoteSearch.Proofs.Pattern.Count
import QuoteSearch.Proofs.Pattern.Expression

/-! # Written patterns carry their terms

A pattern is searched for by its written form. That form is read as the terms that it was made of, so the
matches found with it are the leftmost stretches that read like a term and stand between word boundaries, and
patterns of different terms are written differently. Only a pattern whose matcher would be too large finds
nothing at all.
-/

namespace QuoteSearch

open Text

/-- The stretches that an expression matches first where they begin. -/
def Expression.Matches (e : Expression) : List Char → Span → Prop :=
  MatchesAt fun before rest => (e.lengths before rest).head?

namespace WordPattern

/-- What is found with a pattern; `none` if there is no matcher for it. -/
def search? (p : WordPattern) (text : List Char) : Option (List Span) :=
  if p.fits then some (p.spans text) else none

theorem search?_eq_some_iff {p : WordPattern} {text : List Char} {found : List Span} :
    p.search? text = some found ↔ p.fits = true ∧ p.spans text = found := by
  rw [search?, Option.ite_none_right_eq_some, Option.some.injEq]

/-- The written form of a pattern is read as its terms, and what the expression matches is what the pattern finds. -/
def IsReadAs (p : WordPattern) (e : Expression) : Prop :=
  Expression.read p.text.toList = some e ∧ e.words = p.terms ∧
    ∀ text found, p.search? text = some found ↔ p.fits = true ∧ TakesLeftmost (e.Matches text) 0 found

theorem isReadAs_ofPattern {p : WordPattern} (hTerms : p.terms ≠ []) : p.IsReadAs (.ofPattern p) := by
  refine ⟨Expression.read_text p, Expression.words_ofPattern hTerms, fun text found => ?_⟩
  have hLengths : (fun before rest => ((Expression.ofPattern p).lengths before rest).head?) = lengthAt? p.terms :=
    funext fun before => funext fun rest => Expression.head?_lengths_ofPattern hTerms before rest
  rw [search?_eq_some_iff, Expression.Matches, hLengths, takesLeftmost_iff]

theorem terms_eq_of_text {p q : WordPattern} (hp : p.terms ≠ []) (hq : q.terms ≠ []) (h : p.text = q.text) :
    p.terms = q.terms := by
  have hSame : Expression.read p.text.toList = Expression.read q.text.toList := congrArg (Expression.read ·.toList) h
  have hRead := (Expression.read_text p).symm.trans (hSame.trans (Expression.read_text q))
  rw [← Expression.words_ofPattern hp, Option.some.inj hRead, Expression.words_ofPattern hq]

structure CarriesTerm (term other : String) (text : List Char) : Prop where
  finds : ∀ found, (word term).search? text = some found ↔
    (word term).fits = true ∧ TakesLeftmost (IsRange term.toList text) 0 found
  reads : ∃ e, (word term).IsReadAs e
  determines : (word term).text = (word other).text → term = other

structure CarriesMembers (words others : List String) (text : List Char) : Prop where
  none_iff : anyOf? words = none ↔ members words = []
  finds : ∀ p found, anyOf? words = some p → p.search? text = some found →
    ∀ m ∈ found, ∃ member ∈ members words, IsRange member.toList text m
  found_iff : ∀ p found, anyOf? words = some p → p.search? text = some found →
    (found ≠ [] ↔ ∃ member ∈ members words, ∃ single, (word member).search? text = some single ∧ single ≠ [])
  reads : ∀ p, anyOf? words = some p → ∃ e, p.IsReadAs e ∧ e.words = (members words).map String.toList
  determines : (anyOf? words).map WordPattern.text = (anyOf? others).map WordPattern.text →
    members words = members others

theorem carriesTerm (term other : String) (text : List Char) : CarriesTerm term other text := by
  constructor
  · intro found
    have hRange : IsRange term.toList text = MatchesAt (lengthAt? (word term).terms) text :=
      funext fun m => propext isRange_iff
    rw [hRange, search?_eq_some_iff, takesLeftmost_iff]
  · exact ⟨_, isReadAs_ofPattern (List.cons_ne_nil _ _)⟩
  · intro h
    have hTerms : [term.toList] = [other.toList] :=
      terms_eq_of_text (p := word term) (q := word other) (List.cons_ne_nil _ _) (List.cons_ne_nil _ _) h
    exact String.toList_inj.mp (List.singleton_inj.mp hTerms)

theorem anyOf?_eq_some_iff {words : List String} {p : WordPattern} :
    anyOf? words = some p ↔ members words ≠ [] ∧ anyOf (members words) = p := by
  rw [anyOf?_eq, Option.ite_none_left_eq_some, Option.some.injEq]

theorem terms_anyOf_ne_nil {words : List String} (h : words ≠ []) : (anyOf words).terms ≠ [] :=
  mt List.map_eq_nil_iff.mp h

theorem spans_anyOf_eq_nil_iff (words : List String) (text : List Char) :
    (anyOf words).spans text = [] ↔ ∀ w ∈ words, (word w).spans text = [] := by
  have hCount := matchCount_eq_zero_iff (anyOf words).terms none 0 text
  simp only [matchCount, List.length_eq_zero_iff, terms, List.forall_mem_map] at hCount
  exact hCount

theorem exists_isRange_of_mem_spans {words : List String} {text : List Char} {m : Span}
    (h : m ∈ (anyOf words).spans text) : ∃ w ∈ words, IsRange w.toList text m := by
  obtain ⟨before, after, rfl, hStart, t, ht, hStands, hStop⟩ := isPlace_of_mem_spans h
  obtain ⟨w, hw, rfl⟩ := List.mem_map.mp ht
  have hSpan : m = ⟨before.length, before.length + w.toList.length⟩ := by
    rw [← hStart, ← hStop]
  exact ⟨w, hw, hSpan ▸ isRange_append_iff.mpr hStands⟩

theorem carriesMembers (words others : List String) (text : List Char) : CarriesMembers words others text := by
  constructor
  case none_iff => simp [anyOf?_eq]
  case finds =>
    intro p found hPattern hFound m hm
    obtain ⟨-, rfl⟩ := anyOf?_eq_some_iff.mp hPattern
    obtain ⟨-, rfl⟩ := search?_eq_some_iff.mp hFound
    exact exists_isRange_of_mem_spans hm
  case found_iff =>
    intro p found hPattern hFound
    obtain ⟨-, rfl⟩ := anyOf?_eq_some_iff.mp hPattern
    obtain ⟨hFits, rfl⟩ := search?_eq_some_iff.mp hFound
    rw [ne_eq, spans_anyOf_eq_nil_iff]
    constructor
    · intro h
      obtain ⟨w, hw, hSpans⟩ : ∃ w ∈ members words, (word w).spans text ≠ [] := by simpa using h
      exact ⟨w, hw, _, search?_eq_some_iff.mpr ⟨fits_word_of_anyOf hw hFits, rfl⟩, hSpans⟩
    · rintro ⟨w, hw, single, hSingle, hNonempty⟩ hNone
      obtain ⟨-, rfl⟩ := search?_eq_some_iff.mp hSingle
      exact hNonempty (hNone w hw)
  case reads =>
    intro p hPattern
    obtain ⟨hNonempty, rfl⟩ := anyOf?_eq_some_iff.mp hPattern
    have hRead := isReadAs_ofPattern (terms_anyOf_ne_nil hNonempty)
    exact ⟨_, hRead, hRead.2.1⟩
  case determines =>
    intro h
    rw [anyOf?_eq, anyOf?_eq] at h
    split at h <;> rename_i hWords
    · split at h <;> rename_i hOthers
      · rw [hWords, hOthers]
      · cases h
    · split at h <;> rename_i hOthers
      · cases h
      · have hTerms := terms_eq_of_text (terms_anyOf_ne_nil hWords) (terms_anyOf_ne_nil hOthers) (Option.some.inj h)
        exact List.map_injective_iff.mpr (fun _ _ => String.toList_inj.mp) hTerms

theorem pattern_text_carries_terms (term other : String) (words others : List String) (text : List Char) :
    CarriesTerm term other text ∧ CarriesMembers words others text :=
  ⟨carriesTerm term other text, carriesMembers words others text⟩

/-- Not every pattern finds the stretches that read like its term: for a very long one there is no matcher. -/
theorem long_pattern_finds_nothing :
    ¬ ∀ (term : String) (text : List Char), ∃ found, (word term).search? text = some found ∧
      TakesLeftmost (IsRange term.toList text) 0 found := by
  intro h
  obtain ⟨found, hFound, -⟩ := h longTerm longTerm.toList
  rw [search?_eq_some_iff, fits_longTerm] at hFound
  exact Bool.false_ne_true hFound.1

end WordPattern

end QuoteSearch
