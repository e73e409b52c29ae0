import QuoteSearch.Proofs.Query.Plain
import QuoteSearch.Proofs.Search.Answer

/-! # Plain queries

A plain query is a search of titles on one tab and of quotes on the other. As its text has no tag
with a value, it can be put under either tag, and each of the two searches then gives its tab.
-/

namespace QuoteSearch

open Query Store SearchService

/-- What the tab of quotes shows. -/
def SearchPage.quoteTab (p : SearchPage) : List AnnotatedQuote × Nat × Nat :=
  (p.quotes, p.totalQuoteMatches, p.totalPages)

namespace SearchService

variable {typed : String}

theorem isTaken_plain (h : IsPlainTerm typed.toList) (hFits : (WordPattern.word typed).fits = true) :
    IsTaken typed := by
  have hTrim : Text.trim typed = typed := by rw [← String.toList_inj, Text.toList_trim, h.trimmed.1]
  refine ⟨?_, ?_, ?_⟩
  · rw [hTrim, ne_eq, ← String.toList_eq_nil_iff]
    exact h.trimmed.2
  · simp [parse_plain h, Query.compiles, videoFilters, quoteFilters, contentTerms, Filter.compiles, hFits]
  · simp [parse_plain h]

theorem isTaken_write_plain (h : IsPlainTerm typed.toList) (hFits : (WordPattern.word typed).fits = true)
    {tag : Tag} (hFree : tag ≠ .id) {text : String}
    (hText : text.toList = tag.write tag.name typed.toList) : IsTaken text := by
  have hParse := parse_write_plain h hFree hText
  refine ⟨?_, ?_, ?_⟩
  · rw [trim_write_plain h hText, ne_eq, ← String.toList_eq_nil_iff, hText]
    exact List.ne_nil_of_mem (Tag.colon_mem_write tag.lowered_name _)
  · cases tag <;> simp [hParse, Query.compiles, videoFilters, quoteFilters, taggedFilters, contentTerms,
      Filter.compiles, hFits]
  · cases tag <;> simp [hParse, mostWords]

end SearchService

/-- A store that can be read answers, as long as 63 bits count the quotes before the page; one that cannot
be fails in the same way for all three. -/
theorem plain_query_searches_titles_and_words {s : Store} {draw : List QuoteRow → List QuoteRow}
    {settings : SearchSettings} {service : SearchService}
    (hService : ofSettings (s.reads draw) settings = .ok service) {typed : String}
    (hTrimmed : Text.trim typed = typed) (hNonempty : typed ≠ "") (hSemicolon : ';' ∉ typed.toList)
    (hPlain : (parse typed).isTagged = false) (hCompiles : (parse typed).compiles = true)
    (sort : SortOrder) (tab : Option Tab) (page : UInt32) :
    let found := fun query => service.search ⟨query, sort, tab, page⟩
    (found typed).map SearchPage.videos = (found ("title: " ++ typed)).map SearchPage.videos ∧
      (found typed).map SearchPage.quoteTab = (found ("word: " ++ typed)).map SearchPage.quoteTab ∧
      ((∃ c, s.Holds c) → Page.before ⟨atLeastOne page, settings.quotesPerPage⟩ < 2 ^ 63 →
        ∃ answered, found typed = .ok answered) := by
  have hTerm := isPlainTerm_of_not_isTagged hTrimmed hNonempty hSemicolon hPlain
  have hParse := parse_plain hTerm
  have hFits : (WordPattern.word typed).fits = true := by
    simpa [hParse, Query.compiles, videoFilters, quoteFilters, contentTerms, Filter.compiles] using hCompiles
  have hTaken := isTaken_plain hTerm hFits
  have hTitled := isTaken_write_plain hTerm hFits (by decide) (toList_titled typed)
  have hWorded := isTaken_write_plain hTerm hFits (by decide) (toList_worded typed)
  refine ⟨?_, ?_, ?_⟩
  · refine search_map_congr hService hTaken hTitled fun c => ?_
    have hTitle := parse_write_plain hTerm (by decide) (toList_titled typed)
    simp [answer, hParse, hTitle, videoFilters, taggedFilters, contentTerms]
  · refine search_map_congr hService hTaken hWorded fun c => ?_
    have hWord := parse_write_plain hTerm (by decide) (toList_worded typed)
    simp [answer, hParse, hWord, SearchPage.quoteTab, quoteFilters, taggedFilters, contentTerms, highlightTerms]
  · rintro ⟨c, hHolds⟩ -
    exact exists_search_eq_ok hHolds hService hCompiles hTaken.words

theorem sample_plain_query_searches_titles_and_words :
    let found := fun query => SearchService.sample.search ⟨query, .oldest, some .quotes, 1⟩
    ofSettings (Store.sample.reads id) ⟨1, 24, 10, []⟩ = .ok SearchService.sample ∧
      Text.trim "Creeper" = "Creeper" ∧ "Creeper" ≠ "" ∧ ';' ∉ "Creeper".toList ∧
      (parse "Creeper").isTagged = false ∧ (parse "Creeper").compiles = true ∧
      (found "Creeper").map SearchPage.videos = (found "title: Creeper").map SearchPage.videos ∧
      (found "Creeper").map SearchPage.quoteTab = (found "word: Creeper").map SearchPage.quoteTab ∧
      ∃ answered, found "Creeper" = .ok answered := by
  have hTrimmed : Text.trim "Creeper" = "Creeper" := by decide
  have hPlain : (parse "Creeper").isTagged = false := by decide +kernel
  have hCompiles : (parse "Creeper").compiles = true := by decide +kernel
  obtain ⟨hVideos, hQuotes, hAnswered⟩ := plain_query_searches_titles_and_words ofSettings_sample hTrimmed
    (by decide) (by decide) hPlain hCompiles .oldest (some .quotes) 1
  exact ⟨ofSettings_sample, hTrimmed, by decide, by decide, hPlain, hCompiles, hVideos, hQuotes,
    hAnswered ⟨sampleCatalog, holds_sample⟩ (by decide)⟩

end QuoteSearch
