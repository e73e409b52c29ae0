import QuoteSearch.Proofs.Catalog.Found
import QuoteSearch.Proofs.Highlight.Markup
import QuoteSearch.Proofs.Search.Answer

/-! # What is found is marked

The store and the highlighter look for the same terms in the same way. A quote is found if the
highlighter finds every term in it, and then every term leaves its mark.
-/

namespace QuoteSearch

open Store SearchService

/-- A quote of a video with the id and the title asked for, in which the highlighter's search finds
every term. -/
structure Matches (c : Catalog) (query : Query) (q : Quote) : Prop where
  video : ∃ v ∈ c.videos, v.id = q.videoId ∧ query.AcceptsVideo v
  terms : ∀ term ∈ query.contentTerms,
    ∃ m ∈ (WordPattern.word term).spans q.content.toList, m.start < m.stop

/-- A content as it is shown. Of each term a match meets a marked stretch. -/
structure ShowsTerms (query : Query) (content shown : String) : Prop where
  highlighted : shown = Highlight.highlight content query.highlightTerms
  met : ∀ term ∈ query.contentTerms, ∃ m ∈ (WordPattern.word term).spans content.toList,
    m.start < m.stop ∧ ∃ s ∈ Highlight.markedSpans content.toList query.highlightTerms, m.overlaps s = true
  marked : query.contentTerms ≠ [] → ∃ pairs, 0 < pairs ∧ Highlight.IsMarked pairs shown.toList
  plain : query.contentTerms = [] → shown = Html.escapeText content

/-- A search counts the quotes that match, and those it shows are some of them. It has an answer as long
as 63 bits count the quotes before the page that is asked for. -/
def MarksWhatItFinds (service : SearchService) (c : Catalog) (request : SearchRequest) : Prop :=
  ∃ counted : List Quote, counted.Sublist c.quotes ∧
    (∀ q ∈ c.quotes, q ∈ counted ↔ Matches c (Query.parse request.query) q) ∧
    (Page.before ⟨atLeastOne request.page, service.settings.quotesPerPage⟩ < 2 ^ 63 →
      ∃ page, service.search request = .ok page) ∧
    ∀ page, service.search request = .ok page → page.totalQuoteMatches = counted.length ∧
      ∀ shown ∈ page.quotes, ∃ q ∈ counted, shown.id = q.id ∧
        ShowsTerms (Query.parse request.query) q.content shown.content

namespace Highlight

theorem exists_markedSpan {content term : String} {terms : List String} (hTerm : term ∈ terms)
    (hBlank : Text.trimBlanks term.toList ≠ []) (hFits : (WordPattern.word term).fits = true) {m : Span}
    (hm : m ∈ (WordPattern.word term).spans content.toList) (hNonempty : m.start < m.stop) :
    ∃ s ∈ markedSpans content.toList terms, m.overlaps s = true := by
  rw [← termSpans_eq hBlank hFits] at hm
  obtain ⟨s, hs, hOverlaps⟩ := exists_claim_overlapping hTerm hm hNonempty
  exact ⟨s, (perm_markedSpans _ _).mem_iff.mpr hs, hOverlaps⟩

theorem isMarked_highlight (content : String) (terms : List String) :
    IsMarked (markedSpans content.toList terms).length (highlight content terms).toList := by
  rw [highlight, String.toList_ofList, (perm_markedSpans _ _).length_eq]
  exact isMarked_highlightChars content.toList terms

end Highlight

variable {typed : String}

theorem Query.acceptsContent_iff (hTyped : Text.trim typed ≠ "") {content : String} :
    (parse typed).AcceptsContent content ↔ ∀ term ∈ (parse typed).contentTerms,
      ∃ m ∈ (WordPattern.word term).spans content.toList, m.start < m.stop := by
  refine forall₂_congr fun term hTerm => WordPattern.occursIn_word_iff ?_
  exact Text.ne_nil_of_trimBlanks_ne_nil (trimBlanks_contentTerm_ne_nil hTyped hTerm)

theorem showsTerms_highlight (hTyped : Text.trim typed ≠ "") (hCompiles : (Query.parse typed).compiles = true)
    {content : String} (hFound : ∀ term ∈ (Query.parse typed).contentTerms,
      ∃ m ∈ (WordPattern.word term).spans content.toList, m.start < m.stop) :
    ShowsTerms (Query.parse typed) content
      (Highlight.highlight content (Query.parse typed).highlightTerms) := by
  have hMet : ∀ term ∈ (Query.parse typed).contentTerms, ∃ m ∈ (WordPattern.word term).spans content.toList,
      m.start < m.stop ∧ ∃ s ∈ Highlight.markedSpans content.toList (Query.parse typed).highlightTerms,
        m.overlaps s = true := by
    intro term hTerm
    obtain ⟨m, hm, hNonempty⟩ := hFound term hTerm
    exact ⟨m, hm, hNonempty, Highlight.exists_markedSpan hTerm
      (Query.trimBlanks_contentTerm_ne_nil hTyped hTerm) (Query.fits_of_mem_contentTerms hCompiles hTerm)
      hm hNonempty⟩
  refine ⟨rfl, hMet, ?_, ?_⟩
  · intro hTerms
    obtain ⟨term, rest, hEq⟩ := List.exists_cons_of_ne_nil hTerms
    obtain ⟨m, -, -, s, hs, -⟩ := hMet term (hEq ▸ List.mem_cons_self)
    exact ⟨_, List.length_pos_of_mem hs, Highlight.isMarked_highlight content _⟩
  · intro hTerms
    rw [Query.highlightTerms, hTerms, Highlight.highlight_nil]

theorem Catalog.WellFormed.mem_map_quote_foundRows {c : Catalog} (h : c.WellFormed)
    (hTyped : Text.trim typed ≠ "") {sort : SortOrder} {q : Quote} (hq : q ∈ c.quotes) :
    q ∈ (c.foundRows (Query.parse typed).quoteFilters sort).map QuoteRow.quote ↔
      Matches c (Query.parse typed) q := by
  rw [List.mem_map]
  constructor
  · rintro ⟨row, hRow, rfl⟩
    obtain ⟨-, ⟨hVideo, hId⟩, hAccepts⟩ := h.mem_foundRows_iff.mp hRow
    obtain ⟨hAcceptsVideo, hContent⟩ := Query.quoteFilters_acceptRow_iff.mp hAccepts
    exact ⟨⟨row.video, hVideo, hId, hAcceptsVideo⟩, (Query.acceptsContent_iff hTyped).mp hContent⟩
  · rintro ⟨⟨v, hVideo, hId, hAcceptsVideo⟩, hTerms⟩
    have hContent := (Query.acceptsContent_iff hTyped).mpr hTerms
    refine ⟨⟨v, q⟩, h.mem_foundRows_iff.mpr ⟨hq, ⟨hVideo, hId⟩, ?_⟩, rfl⟩
    exact Query.quoteFilters_acceptRow_iff.mpr ⟨hAcceptsVideo, hContent⟩

/-- Filtering and highlighting never disagree. -/
theorem search_marks_what_it_finds {s : Store} {c : Catalog} (hReachable : s.Reachable)
    (hHolds : s.Holds c) {draw : List QuoteRow → List QuoteRow} {settings : SearchSettings}
    {service : SearchService} (hService : ofSettings (s.reads draw) settings = .ok service)
    {request : SearchRequest} (hTyped : Text.trim request.query ≠ "")
    (hCompiles : (Query.parse request.query).compiles = true)
    (hWords : (Query.parse request.query).words.length ≤ Query.mostWords) :
    MarksWhatItFinds service c request := by
  have hCatalog := hReachable.catalog_wellFormed hHolds
  obtain ⟨counted, hPerm, hSublist⟩ :=
    hCatalog.map_quote_foundRows_subperm (Query.parse request.query).quoteFilters request.sort
  have hMatches : ∀ q ∈ c.quotes, q ∈ counted ↔ Matches c (Query.parse request.query) q :=
    fun q hq => hPerm.mem_iff.trans (hCatalog.mem_map_quote_foundRows hTyped hq)
  have hSearch := search_eq_answer hHolds hService hTyped hCompiles hWords
  refine ⟨counted, hSublist, hMatches, fun _ => ⟨_, hSearch⟩, fun page hPage => ?_⟩
  obtain rfl := Except.ok.inj (hSearch.symm.trans hPage)
  constructor
  · rw [hPerm.length_eq, List.length_map]
    rfl
  · intro shown hShown
    obtain ⟨row, hRow, rfl⟩ := List.mem_map.mp hShown
    have hCounted : row.quote ∈ counted := by
      refine hPerm.mem_iff.mpr (List.mem_map_of_mem ?_)
      exact List.mem_of_mem_drop (List.mem_of_mem_take hRow)
    have hTerms := ((hMatches _ (hSublist.subset hCounted)).mp hCounted).terms
    exact ⟨row.quote, hCounted, rfl, showsTerms_highlight hTyped hCompiles hTerms⟩

theorem sample_search_marks_what_it_finds :
    Store.sample.Reachable ∧ Store.sample.Holds sampleCatalog ∧
      ofSettings (Store.sample.reads id) ⟨1, 24, 10, []⟩ = .ok SearchService.sample ∧
      Text.trim "word: creeper, a" ≠ "" ∧ (Query.parse "word: creeper, a").compiles = true ∧
      (Query.parse "word: creeper, a").words.length ≤ Query.mostWords ∧
      MarksWhatItFinds SearchService.sample sampleCatalog ⟨"word: creeper, a", .newest, none, 1⟩ := by
  have hTyped : Text.trim "word: creeper, a" ≠ "" := by decide +kernel
  have hCompiles : (Query.parse "word: creeper, a").compiles = true := by decide +kernel
  have hWords : (Query.parse "word: creeper, a").words.length ≤ Query.mostWords := by decide +kernel
  exact ⟨reachable_sample, holds_sample, ofSettings_sample, hTyped, hCompiles, hWords,
    search_marks_what_it_finds reachable_sample holds_sample ofSettings_sample hTyped hCompiles hWords⟩

/-- With too many words nothing is counted, though all the patterns compile. -/
theorem crowded_query_counts_nothing :
    Store.sample.Reachable ∧ Store.sample.Holds sampleCatalog ∧
      ofSettings (Store.sample.reads id) ⟨1, 24, 10, []⟩ = .ok SearchService.sample ∧
      Text.trim crowdedQuery ≠ "" ∧ (Query.parse crowdedQuery).compiles = true ∧
      ¬ MarksWhatItFinds SearchService.sample sampleCatalog ⟨crowdedQuery, .newest, none, 1⟩ := by
  refine ⟨reachable_sample, holds_sample, ofSettings_sample, trim_crowdedQuery, compiles_crowdedQuery, ?_⟩
  rintro ⟨counted, -, -, hAnswered, -⟩
  obtain ⟨page, hPage⟩ := hAnswered (by decide)
  rw [search_crowdedQuery] at hPage
  cases hPage

end QuoteSearch
