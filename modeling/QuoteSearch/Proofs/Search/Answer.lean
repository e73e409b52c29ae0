import QuoteSearch.Proofs.Page
import QuoteSearch.Proofs.Store.Read

/-! # What a search answers

The answer to a query in terms of the catalogue that is searched. A query with too many words is
refused as a whole.
-/

namespace QuoteSearch.SearchService

open Store

/-- The answer to a query that is not blank. -/
def answer (c : Catalog) (settings : SearchSettings) (request : SearchRequest) : SearchPage :=
  let query := Query.parse request.query
  let videos := c.foundVideos query.videoFilters request.sort
  let rows := c.foundRows query.quoteFilters request.sort
  let page : Page := ⟨atLeastOne request.page, settings.quotesPerPage⟩
  { query := Text.trim request.query
    sort := request.sort
    videos
    quotes := (page.slice rows).map (QuoteRow.annotate query.highlightTerms)
    totalQuoteMatches := rows.length
    currentPage := page.number
    totalPages := page.count rows.length
    activeTab := Tab.choose request.requestedTab videos.length rows.length }

variable {s : Store} {c : Catalog} {settings : SearchSettings} {service : SearchService}
  {draw : List QuoteRow → List QuoteRow} {request : SearchRequest}

theorem ofSettings_eq_ok {reads : Reads} (h : ofSettings reads settings = .ok service) :
    service.reads = reads ∧ service.settings = settings := by
  rw [ofSettings] at h
  split at h
  · cases h
  · split at h
    · cases h
    · cases h
      exact ⟨rfl, rfl⟩

theorem atLeastOne_pos (number : UInt32) : 0 < (atLeastOne number).toNat := by
  rw [atLeastOne]
  split
  · exact Nat.one_pos
  · rename_i hNumber
    exact Nat.pos_of_ne_zero fun hZero => hNumber (UInt32.toNat_inj.mp hZero)

theorem atLeastOne_ofNat {number : Nat} (hPos : 0 < number) (hLargest : number ≤ Page.largestNumber) :
    atLeastOne (UInt32.ofNat number) = UInt32.ofNat number := by
  rw [atLeastOne, if_neg]
  intro hZero
  rw [← UInt32.toNat_inj, Page.toNat_ofNat hLargest] at hZero
  exact hPos.ne' hZero

theorem left_join_error {α β : Type} (fault : SearchFault) (b : SearchResult β) :
    Earlier.left.join (.error fault : SearchResult α) b = .error fault := by
  cases b <;> rfl

theorem search_eq_answer (hHolds : s.Holds c) (hService : ofSettings (s.reads draw) settings = .ok service)
    (hTyped : Text.trim request.query ≠ "")
    (hCompiles : (Query.parse request.query).compiles = true)
    (hWords : (Query.parse request.query).words.length ≤ Query.mostWords) :
    service.search request = .ok (answer c settings request) := by
  obtain ⟨hReads, hSettings⟩ := ofSettings_eq_ok hService
  have hVideos := hHolds.listVideos_eq draw hCompiles hWords request.sort
  have hCount := hHolds.countQuotes_eq draw hCompiles hWords request.sort
  have hQuotes := hHolds.listQuotes_eq draw hCompiles hWords request.sort
  simp only [search, if_neg hTyped, Query.parse_trim, hReads, hVideos, hCount, hQuotes, Earlier.join,
    bind, Except.bind, pure, Except.pure, shown, answer, hSettings]

/-- A store that can be read answers every query that it takes, a blank one too. -/
theorem exists_search_eq_ok (hHolds : s.Holds c) (hService : ofSettings (s.reads draw) settings = .ok service)
    (hCompiles : (Query.parse request.query).compiles = true)
    (hWords : (Query.parse request.query).words.length ≤ Query.mostWords) :
    ∃ page, service.search request = .ok page := by
  by_cases hTyped : Text.trim request.query = ""
  · have hVideos : service.reads.listVideos [] request.sort = .ok (c.foundVideos [] request.sort) := by
      rw [(ofSettings_eq_ok hService).1]
      exact hHolds.read_eq videoTable ⟨Nat.zero_le _, Nat.zero_le _⟩
        (c.listVideos_eq (List.forall_mem_nil _) request.sort)
    simp only [search, if_pos hTyped, browse, hVideos, bind, Except.bind]
    exact ⟨_, rfl⟩
  · exact ⟨_, search_eq_answer hHolds hService hTyped hCompiles hWords⟩

theorem fits_titleFilters (word : String) : (Nesting.ofVideos (titleFilters word)).Fits := by
  rw [titleFilters]
  split
  · exact (Nesting.fits_ofVideos_iff rfl rfl (Nat.zero_le 2)).mpr (Nat.zero_le _)
  · exact (Nesting.fits_ofVideos_iff rfl rfl (Nat.le_succ 1)).mpr (Nat.zero_le _)

theorem listVideos_eq_page (hHolds : s.Holds c) (hService : ofSettings (s.reads draw) settings = .ok service)
    {word : String} (hCompiles : ∀ f ∈ titleFilters word, f.compiles = true) (sort : SortOrder) (number : UInt32) :
    service.listVideos word sort number =
      .ok ⟨Page.slice ⟨atLeastOne number, settings.videosPerPage⟩ (c.foundVideos (titleFilters word) sort),
        atLeastOne number⟩ := by
  obtain ⟨hReads, hSettings⟩ := ofSettings_eq_ok hService
  have hVideos := hHolds.listVideosPage_eq draw (fits_titleFilters word) hCompiles sort
  simp only [listVideos, hReads, hSettings, hVideos, bind, Except.bind, pure, Except.pure]

theorem exists_listVideos_eq_ok (hHolds : s.Holds c)
    (hService : ofSettings (s.reads draw) settings = .ok service) {word : String}
    (hCompiles : ∀ f ∈ titleFilters word, f.compiles = true) (sort : SortOrder) (number : UInt32) :
    ∃ page, service.listVideos word sort number = .ok page :=
  ⟨_, listVideos_eq_page hHolds hService hCompiles sort number⟩

theorem search_eq_error (hHolds : s.Holds c) (hService : ofSettings (s.reads draw) settings = .ok service)
    (hTyped : Text.trim request.query ≠ "") (hTagged : (Query.parse request.query).isTagged = true)
    (hWords : Query.mostWords < (Query.parse request.query).words.length) :
    service.search request = .error tooDeep := by
  obtain ⟨hReads, -⟩ := ofSettings_eq_ok hService
  have hVideos := hHolds.listVideos_eq_error draw hTagged hWords request.sort
  simp only [search, if_neg hTyped, Query.parse_trim, hReads, hVideos, Timing.inOrder, left_join_error, bind,
    Except.bind]

theorem search_eq_error_of_access {fault : StoreFault} (hAccess : s.access videoTable = .error fault)
    (hService : ofSettings (s.reads draw) settings = .ok service) (hTyped : Text.trim request.query ≠ "")
    (hWords : (Query.parse request.query).words.length ≤ Query.mostWords) :
    service.search request = .error fault.toSearch := by
  obtain ⟨hReads, -⟩ := ofSettings_eq_ok hService
  have hVideos : (s.reads draw).listVideos (Query.parse request.query).videoFilters request.sort =
      .error fault.toSearch := read_eq_error_of_access hAccess (Query.fits_ofVideos hWords) _
  simp only [search, if_neg hTyped, Query.parse_trim, hReads, hVideos, Timing.inOrder, left_join_error, bind,
    Except.bind]

/-- The store takes the query if it has what the query asks about. -/
structure IsTaken (typed : String) : Prop where
  nonblank : Text.trim typed ≠ ""
  compiles : (Query.parse typed).compiles = true
  words : (Query.parse typed).words.length ≤ Query.mostWords

/-- Searches that agree on a part of the answer for each catalogue agree on it for the store. -/
theorem search_map_congr {α : Type} {view : SearchPage → α} {other : SearchRequest}
    (hService : ofSettings (s.reads draw) settings = .ok service) (hRequest : IsTaken request.query)
    (hOther : IsTaken other.query)
    (hView : ∀ c, view (answer c settings request) = view (answer c settings other)) :
    (service.search request).map view = (service.search other).map view := by
  rcases exists_holds_or_access_eq_error s videoTable with ⟨c, hHolds⟩ | ⟨fault, hAccess⟩
  · rw [search_eq_answer hHolds hService hRequest.nonblank hRequest.compiles hRequest.words,
      search_eq_answer hHolds hService hOther.nonblank hOther.compiles hOther.words]
    exact congrArg Except.ok (hView c)
  · -- The first read fails, whatever is asked.
    rw [search_eq_error_of_access hAccess hService hRequest.nonblank hRequest.words,
      search_eq_error_of_access hAccess hService hOther.nonblank hOther.words]

theorem totalPages_answer_le (c : Catalog) (settings : SearchSettings) (request : SearchRequest) :
    (answer c settings request).totalPages ≤ c.quotes.length + 1 := by
  rw [answer]
  exact (Page.count_le _ _).trans (Nat.succ_le_succ (c.length_foundRows_le _ request.sort))

/-- The sample store with one quote on a page. -/
def sample : SearchService := ⟨Store.sample.reads id, ⟨1, 24, 10, []⟩, by decide, by decide⟩

theorem ofSettings_sample : ofSettings (Store.sample.reads id) ⟨1, 24, 10, []⟩ = .ok sample := rfl

def crowdedChars : List Char := "word:".toList ++ (List.replicate 500 ['a', ',']).flatten

/-- A query with more words than the store takes. -/
def crowdedQuery : String := String.ofList crowdedChars

theorem trim_crowdedQuery : Text.trim crowdedQuery ≠ "" := by
  rw [Text.trim, crowdedQuery, String.toList_ofList]
  decide +kernel

theorem isTagged_crowdedQuery : (Query.parse crowdedQuery).isTagged = true := by
  rw [Query.parse, crowdedQuery, String.toList_ofList]
  decide +kernel

theorem compiles_crowdedQuery : (Query.parse crowdedQuery).compiles = true := by
  rw [Query.parse, crowdedQuery, String.toList_ofList]
  decide +kernel

theorem mostWords_lt_crowdedQuery : Query.mostWords < (Query.parse crowdedQuery).words.length := by
  rw [Query.parse, crowdedQuery, String.toList_ofList]
  decide +kernel

theorem search_crowdedQuery (sort : SortOrder) (tab : Option Tab) (number : UInt32) :
    sample.search ⟨crowdedQuery, sort, tab, number⟩ = .error tooDeep :=
  search_eq_error holds_sample ofSettings_sample trim_crowdedQuery isTagged_crowdedQuery
    mostWords_lt_crowdedQuery

end QuoteSearch.SearchService
