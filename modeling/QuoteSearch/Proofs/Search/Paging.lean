import QuoteSearch.Proofs.Catalog.Found
import QuoteSearch.Proofs.Search.Answer

/-! # Paging through a search

The pages of a search show all its quotes in order, and none of them twice. Everything else that a
search answers is the same on every page.
-/

namespace QuoteSearch

open Store SearchService Catalog

/-- All the quotes that the filters accept, each once with its video, in the order of a result. -/
structure ListsMatches (c : Catalog) (filters : List Filter) (sort : SortOrder) (rows : List QuoteRow) :
    Prop where
  matching : ∀ row, row ∈ rows ↔ row.quote ∈ c.quotes ∧
    (row.video ∈ c.videos ∧ row.video.id = row.quote.videoId) ∧ ∀ f ∈ filters, f.acceptsRow row = true
  once : (rows.map fun row => row.quote.id).Nodup
  sorted : rows.Pairwise fun a b => QuoteRow.order sort a b = .lt

/-- A page next to the first one of the same search, with `size` quotes on a full page. -/
structure Follows (size : Nat) (first page : SearchPage) : Prop where
  videos : page.videos = first.videos
  totalQuoteMatches : page.totalQuoteMatches = first.totalQuoteMatches
  totalPages : page.totalPages = first.totalPages
  activeTab : page.activeTab = first.activeTab
  full : page.currentPage.toNat < first.totalPages → page.quotes.length = size
  empty : first.totalPages < page.currentPage.toNat → page.quotes = []

/-- The pages up to the last one show all the matches, one after another; a page is asked for by
its number as long as 63 bits count the quotes before it. -/
def ShowsEachMatchOnce (service : SearchService) (c : Catalog) (typed : String) (sort : SortOrder)
    (tab : Option Tab) : Prop :=
  let query := Query.parse typed
  let size := service.settings.quotesPerPage
  ∃ rows first, ListsMatches c query.quoteFilters sort rows ∧
    service.search ⟨typed, sort, tab, 1⟩ = .ok first ∧ first.totalQuoteMatches = rows.length ∧
    (∀ number, Page.before ⟨atLeastOne number, size⟩ < 2 ^ 63 →
      ∃ page, service.search ⟨typed, sort, tab, number⟩ = .ok page ∧
        page.currentPage = atLeastOne number ∧ Follows size.toNat first page) ∧
    (Page.before ⟨UInt32.ofNat first.totalPages, size⟩ < 2 ^ 63 →
      ∃ pages, (List.range' 1 first.totalPages).mapM
          (fun i => service.search ⟨typed, sort, tab, UInt32.ofNat i⟩) = .ok pages ∧
        pages.flatMap SearchPage.quotes = rows.map (QuoteRow.annotate query.highlightTerms))

theorem Catalog.WellFormed.listsMatches {c : Catalog} (h : c.WellFormed) (filters : List Filter)
    (sort : SortOrder) : ListsMatches c filters sort (c.foundRows filters sort) :=
  ⟨fun _ => h.mem_foundRows_iff, h.nodup_foundRowIds filters sort, h.foundRows_pairwise_lt filters sort⟩

namespace SearchService

variable {c : Catalog} {settings : SearchSettings} {typed : String} {sort : SortOrder} {tab : Option Tab}

theorem follows_answer (hSize : settings.quotesPerPage ≠ 0) {number : UInt32}
    (hBefore : Page.before ⟨atLeastOne number, settings.quotesPerPage⟩ < 2 ^ 63) :
    Follows settings.quotesPerPage.toNat (answer c settings ⟨typed, sort, tab, 1⟩)
      (answer c settings ⟨typed, sort, tab, number⟩) where
  videos := rfl
  totalQuoteMatches := rfl
  totalPages := rfl
  activeTab := rfl
  full hFull := by
    rw [answer, List.length_map]
    exact Page.length_slice hSize (atLeastOne_pos number) hBefore hFull
  empty hAfter := by
    rw [answer, List.map_eq_nil_iff]
    exact Page.slice_eq_nil hSize hBefore hAfter

/-- The first pages, one after another, show the first quotes. -/
theorem flatMap_answer {count : Nat} (hCount : count ≤ Page.largestNumber)
    (hBefore : Page.before ⟨UInt32.ofNat count, settings.quotesPerPage⟩ < 2 ^ 63) :
    ((List.range' 1 count).flatMap fun i =>
        (answer c settings ⟨typed, sort, tab, UInt32.ofNat i⟩).quotes) =
      ((c.foundRows (Query.parse typed).quoteFilters sort).map
        (QuoteRow.annotate (Query.parse typed).highlightTerms)).take
          (count * settings.quotesPerPage.toNat) := by
  rw [← List.map_take, ← Page.flatMap_slice settings.quotesPerPage _ hCount hBefore, List.map_flatMap]
  apply List.flatMap_congr
  intro i hi
  obtain ⟨hPos, hLast⟩ := List.mem_range'_1.mp hi
  have hLargest : i ≤ Page.largestNumber := by omega
  simp only [answer, atLeastOne_ofNat hPos hLargest]

theorem flatMap_answer_quotes (hSize : settings.quotesPerPage ≠ 0)
    (hPages : (answer c settings ⟨typed, sort, tab, 1⟩).totalPages ≤ Page.largestNumber)
    (hBefore : Page.before ⟨UInt32.ofNat (answer c settings ⟨typed, sort, tab, 1⟩).totalPages,
      settings.quotesPerPage⟩ < 2 ^ 63) :
    ((List.range' 1 (answer c settings ⟨typed, sort, tab, 1⟩).totalPages).flatMap fun i =>
        (answer c settings ⟨typed, sort, tab, UInt32.ofNat i⟩).quotes) =
      (c.foundRows (Query.parse typed).quoteFilters sort).map
        (QuoteRow.annotate (Query.parse typed).highlightTerms) := by
  rw [flatMap_answer hPages hBefore, List.take_of_length_le]
  rw [List.length_map]
  exact Page.le_count_mul (p := ⟨1, settings.quotesPerPage⟩) hSize _

end SearchService

/-- Paging through a search loses no quote and repeats none. -/
theorem paging_shows_each_match_once {s : Store} {c : Catalog} (hReachable : s.Reachable)
    (hHolds : s.Holds c) {draw : List QuoteRow → List QuoteRow} {settings : SearchSettings}
    {service : SearchService} (hService : ofSettings (s.reads draw) settings = .ok service)
    {typed : String} (hTyped : Text.trim typed ≠ "") (hCompiles : (Query.parse typed).compiles = true)
    (hWords : (Query.parse typed).words.length ≤ Query.mostWords) (sort : SortOrder) (tab : Option Tab)
    (hPages : (answer c settings ⟨typed, sort, tab, 1⟩).totalPages ≤ Page.largestNumber) :
    ShowsEachMatchOnce service c typed sort tab := by
  obtain ⟨-, rfl⟩ := ofSettings_eq_ok hService
  have hSize := service.quotesPerPage_ne_zero
  have hSearch : ∀ number, service.search ⟨typed, sort, tab, number⟩ =
      .ok (answer c service.settings ⟨typed, sort, tab, number⟩) :=
    fun number => search_eq_answer hHolds hService hTyped hCompiles hWords
  refine ⟨_, _, (hReachable.catalog_wellFormed hHolds).listsMatches _ sort, hSearch 1, rfl, ?_, ?_⟩
  · intro number hBefore
    exact ⟨_, hSearch number, rfl, follows_answer hSize hBefore⟩
  · intro hBefore
    have hRun : ∀ numbers : List Nat,
        numbers.mapM (fun i => service.search ⟨typed, sort, tab, UInt32.ofNat i⟩) =
          .ok (numbers.map fun i => answer c service.settings ⟨typed, sort, tab, UInt32.ofNat i⟩) := by
      intro numbers
      simp only [hSearch]
      exact List.mapM_pure
    refine ⟨_, hRun _, ?_⟩
    rw [List.flatMap_map]
    exact flatMap_answer_quotes hSize hPages hBefore

theorem sample_paging_shows_each_match_once :
    Store.sample.Reachable ∧ Store.sample.Holds sampleCatalog ∧
      ofSettings (Store.sample.reads id) ⟨1, 24, 10, []⟩ = .ok SearchService.sample ∧
      Text.trim "creeper" ≠ "" ∧ (Query.parse "creeper").compiles = true ∧
      (Query.parse "creeper").words.length ≤ Query.mostWords ∧
      (answer sampleCatalog ⟨1, 24, 10, []⟩ ⟨"creeper", .newest, none, 1⟩).totalPages ≤ Page.largestNumber ∧
      ShowsEachMatchOnce SearchService.sample sampleCatalog "creeper" .newest none := by
  have hTyped : Text.trim "creeper" ≠ "" := by decide +kernel
  have hCompiles : (Query.parse "creeper").compiles = true := by decide +kernel
  have hWords : (Query.parse "creeper").words.length ≤ Query.mostWords := by decide +kernel
  have hPages := (totalPages_answer_le sampleCatalog ⟨1, 24, 10, []⟩ ⟨"creeper", .newest, none, 1⟩).trans
    (by decide : sampleCatalog.quotes.length + 1 ≤ Page.largestNumber)
  exact ⟨reachable_sample, holds_sample, ofSettings_sample, hTyped, hCompiles, hWords, hPages,
    paging_shows_each_match_once reachable_sample holds_sample ofSettings_sample hTyped hCompiles hWords
      .newest none hPages⟩

/-- With too many words no page is shown, though all the patterns compile. -/
theorem crowded_query_shows_no_page :
    Store.sample.Reachable ∧ Store.sample.Holds sampleCatalog ∧
      ofSettings (Store.sample.reads id) ⟨1, 24, 10, []⟩ = .ok SearchService.sample ∧
      Text.trim crowdedQuery ≠ "" ∧ (Query.parse crowdedQuery).compiles = true ∧
      (answer sampleCatalog ⟨1, 24, 10, []⟩ ⟨crowdedQuery, .newest, none, 1⟩).totalPages ≤
        Page.largestNumber ∧
      ¬ ShowsEachMatchOnce SearchService.sample sampleCatalog crowdedQuery .newest none := by
  refine ⟨reachable_sample, holds_sample, ofSettings_sample, trim_crowdedQuery, compiles_crowdedQuery,
    (totalPages_answer_le sampleCatalog _ _).trans
      (by decide : sampleCatalog.quotes.length + 1 ≤ Page.largestNumber), ?_⟩
  rintro ⟨rows, first, -, hFirst, -⟩
  rw [search_crowdedQuery] at hFirst
  cases hFirst

end QuoteSearch
