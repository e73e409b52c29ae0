import QuoteSearch.Proofs.Query.CommaList
import QuoteSearch.Proofs.Search.LetterCase

/-! # Searching for a comma list

A comma list without a tag is a search for words: the store is asked the same as for the list under
`word:`, and what it answers is shown in the same way, with the same words marked.
-/

namespace QuoteSearch

open SearchService

/-- In every state of the store a comma list is read and answered like the list under its tag. -/
theorem comma_list_searches_words {s : Store} {draw : List QuoteRow → List QuoteRow} {settings : SearchSettings}
    {service : SearchService} (hService : ofSettings (s.reads draw) settings = .ok service) {typed : String}
    (hTrimmed : Text.trim typed = typed) (hComma : ',' ∈ typed.toList) (hSemicolon : ';' ∉ typed.toList)
    (hNoTag : ∀ tag : Tag, tag.find? typed.toList = none) (sort : SortOrder) (tab : Option Tab) (page : UInt32) :
    let words := (Query.parse typed).words
    Query.parse typed = ⟨typed, none, none, words, true⟩ ∧
      Query.parse ("word:" ++ typed) = ⟨"word:" ++ typed, none, none, words, true⟩ ∧
      (∀ timing, (service.search ⟨"word:" ++ typed, sort, tab, page⟩ timing).map SearchPage.unechoed =
        (service.search ⟨typed, sort, tab, page⟩ timing).map SearchPage.unechoed) ∧
      ((∃ c, s.Holds c) → (Query.parse typed).compiles = true → words.length ≤ Query.mostWords →
        Page.before ⟨atLeastOne page, settings.quotesPerPage⟩ < 2 ^ 63 →
        ∃ answered, service.search ⟨typed, sort, tab, page⟩ = .ok answered) := by
  have hList : Query.IsCommaList typed.toList := by
    refine ⟨?_, hComma, hSemicolon, hNoTag⟩
    rw [← Text.toList_trim, hTrimmed]
  have hText : ("word:" ++ typed).toList = Tag.word.name ++ typed.toList := by
    rw [String.toList_append]
    rfl
  have hParse := Query.parse_commaList hList
  have hTagged := Query.parse_word_append hList hText
  have hTyped : Text.trim typed ≠ "" := by
    rw [hTrimmed, ne_eq, ← String.toList_eq_nil_iff]
    exact hList.ne_nil
  have hOther : Text.trim ("word:" ++ typed) ≠ "" := by
    rw [ne_eq, ← String.toList_inj, Text.toList_trim, hText, Query.trimBlanks_word_append hList]
    exact List.append_ne_nil_of_right_ne_nil _ hList.ne_nil
  intro words
  refine ⟨?_, ?_, fun timing => ?_, ?_⟩
  · simp only [words, hParse]
  · simp only [words, hParse, hTagged]
  · -- A query with a tag asks for nothing but what its tags hold.
    apply search_unechoed_congr service hTyped hOther
    · rw [hParse, hTagged]
      rfl
    · rw [hParse, hTagged]
      rfl
    · rw [hParse, hTagged]
      rfl
    · rw [hParse, hTagged]
      rfl
  · rintro ⟨c, hHolds⟩ hCompiles hMost -
    exact exists_search_eq_ok hHolds hService hCompiles hMost

/-- The list has empty items and ends with a name that has no value. -/
theorem sample_comma_list_searches_words :
    let typed := ",Creeper,, a ,word:"
    let words := ["Creeper", "a", "word:"]
    let found := fun query => SearchService.sample.search ⟨query, .newest, some .quotes, 1⟩
    ofSettings (Store.sample.reads id) ⟨1, 24, 10, []⟩ = .ok SearchService.sample ∧
      Text.trim typed = typed ∧ ',' ∈ typed.toList ∧ ';' ∉ typed.toList ∧
      (∀ tag : Tag, tag.find? typed.toList = none) ∧
      Query.parse typed = ⟨typed, none, none, words, true⟩ ∧
      Query.parse ("word:" ++ typed) = ⟨"word:" ++ typed, none, none, words, true⟩ ∧
      (found ("word:" ++ typed)).map SearchPage.unechoed = (found typed).map SearchPage.unechoed ∧
      ∃ answered, found typed = .ok answered := by
  intro typed words found
  have hTrimmed : Text.trim typed = typed := by decide +kernel
  have hNoTag : ∀ tag : Tag, tag.find? typed.toList = none := by
    intro tag
    cases tag <;> decide +kernel
  have hWords : (Query.parse typed).words = words := by decide +kernel
  obtain ⟨hParse, hTagged, hSame, hAnswered⟩ := comma_list_searches_words ofSettings_sample hTrimmed
    (by decide) (by decide) hNoTag .newest (some .quotes) 1
  rw [hWords] at hParse hTagged hAnswered
  exact ⟨ofSettings_sample, hTrimmed, by decide, by decide, hNoTag, hParse, hTagged, hSame .inOrder,
    hAnswered ⟨Store.sampleCatalog, Store.holds_sample⟩ (by decide +kernel) (by decide) (by decide)⟩

end QuoteSearch
