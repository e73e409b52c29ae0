import QuoteSearch.Proofs.Text.Trim
import QuoteSearch.Query

/-! # The normal form of a parsed query

A query does not depend on the blanks at its ends. Words are never blank, and a plain query has
no words.
-/

namespace QuoteSearch.Query

open Text

theorem parse_trim (typed : String) : parse (trim typed) = parse typed := by
  simp only [parse, toList_trim, trimBlanks_trimBlanks]

theorem plain_of_not_isTagged {typed : String} (h : (parse typed).isTagged = false) :
    (parse typed).videoId = none ∧ (parse typed).title = none ∧ (parse typed).words = [] := by
  simp only [parse, Bool.or_eq_false_iff, Option.isSome_eq_false_iff, Option.isNone_iff_eq_none] at h ⊢
  obtain ⟨⟨⟨hId, hTitle⟩, hWord⟩, hComma⟩ := h
  refine ⟨by rw [hId]; rfl, by rw [hTitle]; rfl, ?_⟩
  simp only [hWord, hComma, Bool.and_false, Bool.false_eq_true, if_false, List.map_nil]

theorem mem_splitTerms {list term : List Char} (h : term ∈ splitTerms list) :
    trimBlanks term = term ∧ term ≠ [] := by
  obtain ⟨hMem, hNonempty⟩ := List.mem_filter.mp h
  obtain ⟨item, -, rfl⟩ := List.mem_map.mp hMem
  exact ⟨trimBlanks_trimBlanks item, by simpa using hNonempty⟩

theorem mem_words {typed word : String} (h : word ∈ (parse typed).words) :
    trimBlanks word.toList = word.toList ∧ word.toList ≠ [] := by
  simp only [parse] at h
  obtain ⟨term, hTerm, rfl⟩ := List.mem_map.mp h
  rw [String.toList_ofList]
  cases hWord : tagged? "word:".toList freeValue? (trimBlanks typed.toList) with
  | some list =>
    rw [hWord] at hTerm
    exact mem_splitTerms hTerm
  | none =>
    rw [hWord, List.mem_ite_nil_right] at hTerm
    exact mem_splitTerms hTerm.2

theorem trimBlanks_contentTerm_ne_nil {typed term : String} (hTyped : trim typed ≠ "")
    (h : term ∈ (parse typed).contentTerms) : trimBlanks term.toList ≠ [] := by
  rw [contentTerms] at h
  split at h
  · obtain ⟨hTrimmed, hNonempty⟩ := mem_words h
    rwa [hTrimmed]
  · rw [List.mem_singleton.mp h]
    simpa [parse] using trimBlanks_ne_nil hTyped

end QuoteSearch.Query
