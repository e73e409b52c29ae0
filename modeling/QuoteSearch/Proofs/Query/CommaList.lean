import QuoteSearch.Proofs.Query.Written

/-! # Comma lists without a tag

A comma makes a text in which no tag has a value a list. The text can as well be put under `word:`:
no other tag gets a value by that, and the list is the whole value.
-/

namespace QuoteSearch.Query

open Text

/-- A text with a comma and without a semicolon in which no tag has a value. -/
structure IsCommaList (list : List Char) : Prop where
  trimmed : trimBlanks list = list
  comma : ',' ∈ list
  noSemicolon : ';' ∉ list
  noValue : ∀ tag : Tag, tag.find? list = none

variable {typed : String}

theorem IsCommaList.ne_nil {list : List Char} (h : IsCommaList list) : list ≠ [] := List.ne_nil_of_mem h.comma

theorem parse_commaList (h : IsCommaList typed.toList) :
    parse typed = ⟨typed, none, none, (splitTerms typed.toList).map String.ofList, true⟩ := by
  have hBare : isBareId typed.toList = false := by
    rw [isBareId, List.all_eq_false.mpr ⟨',', h.comma, by decide⟩, Bool.and_false, Bool.false_and]
  rw [parse_eq_assemble, h.trimmed, funext h.noValue]
  simp [assemble, hBare, h.comma]

theorem find?_word_append {list : List Char} (h : IsCommaList list) (tag : Tag) :
    tag.find? (Tag.word.name ++ list) = if tag = .word then some list else none := by
  have hFront : ∀ other : Tag, other ≠ .word →
      ∀ t ∈ other.name.head?, ∀ c ∈ Tag.word.name, sameLetter t c = false := by
    intro other hOther
    have hApart : other.name.head?.all fun t => Tag.word.name.all fun c => !sameLetter t c := by
      cases other with
      | id => decide +kernel
      | title => decide +kernel
      | word => exact absurd rfl hOther
    simpa only [Option.all_eq_true, Option.mem_def, List.all_eq_true, Bool.not_eq_true'] using hApart
  by_cases hWord : tag = .word
  · subst hWord
    rw [if_pos rfl]
    apply Tag.find?_of_name (Tag.lowered_name _)
    apply freeValue?_eq_some _ h.ne_nil h.noSemicolon
    rw [← h.trimmed, dropWhile_trimBlanks]
  · rw [if_neg hWord, Tag.find?_append_of_head (hFront tag hWord), h.noValue]

theorem trimBlanks_word_append {list : List Char} (h : IsCommaList list) :
    trimBlanks (Tag.word.name ++ list) = Tag.word.name ++ list :=
  trimBlanks_append (by decide) Tag.word.name_ne_nil h.trimmed h.ne_nil []

/-- The query that is read from a comma list after the tag. -/
theorem parse_word_append (h : IsCommaList typed.toList) {text : String}
    (hText : text.toList = Tag.word.name ++ typed.toList) :
    parse text = ⟨text, none, none, (splitTerms typed.toList).map String.ofList, true⟩ := by
  have hBare : isBareId text.toList = false := by
    apply isBareId_of_colon_mem
    rw [hText]
    exact List.mem_append_left _ (by decide)
  rw [parse_eq_assemble, hText, trimBlanks_word_append h, funext (find?_word_append h), ← hText]
  simp [assemble, hBare]

end QuoteSearch.Query
