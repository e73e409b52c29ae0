import QuoteSearch.Proofs.Highlight.Markup
import QuoteSearch.Proofs.Query.VideoId
import QuoteSearch.Proofs.Search.LetterCase
import QuoteSearch.Proofs.Search.Paging

/-! # Searching for a video and opening it

The search for an id goes through the same steps as any other: its quotes are selected, sorted and
cut into pages. A video that is opened is looked up, and so is its transcript. Both show the same
quotes in the same order, and both know the same ids.
-/

namespace QuoteSearch

open Store SearchService

/-- The quote in a search that highlights nothing. -/
def TimedQuote.shown (video : Video) (q : TimedQuote) : AnnotatedQuote :=
  ⟨q.id, video, q.time, q.startSeconds, q.endSeconds, Html.escapeText q.content⟩

/-- A search finds one video, and its pages show the transcript from the beginning on, up to one that
is asked for by its number as long as 63 bits count the quotes before it, as they count the ids of all
quotes. -/
structure ShowsTranscript (service : SearchService) (typed : String) (sort : SortOrder) (tab : Option Tab)
    (detail : VideoDetail) (first : SearchPage) : Prop where
  search : service.search ⟨typed, sort, tab, 1⟩ = .ok first
  videos : first.videos = [detail.video]
  total : first.totalQuoteMatches = detail.quotes.length
  pages : ∀ count ≤ first.totalPages, count ≤ Page.largestNumber →
    Page.before ⟨UInt32.ofNat count, service.settings.quotesPerPage⟩ < 2 ^ 63 →
    ∃ pages, (List.range' 1 count).mapM
        (fun i => service.search ⟨typed, sort, tab, UInt32.ofNat i⟩) = .ok pages ∧
      (∀ page ∈ pages, page.videos = [detail.video] ∧
        page.totalQuoteMatches = detail.quotes.length) ∧
      pages.flatMap SearchPage.quotes = (detail.quotes.map (TimedQuote.shown detail.video)).take
        (count * service.settings.quotesPerPage.toNat)
  whole : first.totalPages ≤ Page.largestNumber →
    Page.before ⟨UInt32.ofNat first.totalPages, service.settings.quotesPerPage⟩ < 2 ^ 63 →
    ∃ pages, (List.range' 1 first.totalPages).mapM
        (fun i => service.search ⟨typed, sort, tab, UInt32.ofNat i⟩) = .ok pages ∧
      pages.flatMap SearchPage.quotes = detail.quotes.map (TimedQuote.shown detail.video)

/-- Both tabs are empty on every page; a page is asked for by its number as long as 63 bits count the
quotes before it. -/
def FindsNothing (service : SearchService) (typed : String) (sort : SortOrder) (tab : Option Tab) : Prop :=
  ∀ number, Page.before ⟨atLeastOne number, service.settings.quotesPerPage⟩ < 2 ^ 63 →
    ∃ page, service.search ⟨typed, sort, tab, number⟩ = .ok page ∧
      page.videos = [] ∧ page.quotes = [] ∧ page.totalQuoteMatches = 0

/-- What the search for an id shows is what opening the video shows. -/
structure AgreesWithDetail (service : SearchService) (c : Catalog) (id : String) (sort : SortOrder)
    (tab : Option Tab) : Prop where
  known : ∀ v ∈ c.videos, v.id = id → ∃ detail first, service.videoDetail id = .ok detail ∧
    detail.video = v ∧ ShowsTranscript service ("id:" ++ id) sort tab detail first
  bare : (∃ ch ∈ id.toList, ch.isDigit = true ∨ ch = '-' ∨ ch = '_') → ∀ number,
    (service.search ⟨id, sort, tab, number⟩).map SearchPage.unechoed =
      (service.search ⟨"id:" ++ id, sort, tab, number⟩).map SearchPage.unechoed
  unknown : id ∉ c.videos.map Video.id → FindsNothing service ("id:" ++ id) sort tab
  missing : FindsNothing service ("id:" ++ id) sort tab ↔
    service.videoDetail id = .error (.notFound id)

theorem ShowsTranscript.not_findsNothing {service : SearchService} {typed : String} {sort : SortOrder}
    {tab : Option Tab} {detail : VideoDetail} {first : SearchPage}
    (h : ShowsTranscript service typed sort tab detail first) : ¬ FindsNothing service typed sort tab := by
  intro hNothing
  have hFirst : Page.before ⟨atLeastOne 1, service.settings.quotesPerPage⟩ = 0 := Nat.zero_mul _
  obtain ⟨page, hPage, hVideos, -⟩ := hNothing 1 (hFirst ▸ Nat.two_pow_pos 63)
  rw [h.search] at hPage
  cases hPage
  rw [h.videos] at hVideos
  cases hVideos

theorem QuoteRow.annotate_nil (v : Video) (q : Quote) : annotate [] ⟨v, q⟩ = q.timed.shown v := by
  rw [annotate, Highlight.highlight_nil]
  rfl

namespace SearchService

variable {s : Store} {c : Catalog} {settings : SearchSettings} {service : SearchService}
  {draw : List QuoteRow → List QuoteRow} {typed raw id : String} {sort : SortOrder} {tab : Option Tab}
  {number : UInt32}

theorem videoDetail_eq_ok (hHolds : s.Holds c)
    (hService : ofSettings (s.reads draw) settings = .ok service) {v : Video}
    (hFind : c.findVideo id = some v) (timing : Timing := .inOrder) :
    service.videoDetail id timing = .ok ⟨v, (c.transcript id).map Quote.timed⟩ := by
  obtain ⟨hReads, -⟩ := ofSettings_eq_ok hService
  simp only [videoDetail, hReads, hHolds.findVideo_eq, hHolds.quotesForVideo_eq, hFind, Earlier.join, bind, Except.bind]
  rfl

theorem videoDetail_eq_notFound (hHolds : s.Holds c)
    (hService : ofSettings (s.reads draw) settings = .ok service) (hFind : c.findVideo id = none) :
    service.videoDetail id = .error (.notFound id) := by
  obtain ⟨hReads, -⟩ := ofSettings_eq_ok hService
  simp only [videoDetail, hReads, hHolds.findVideo_eq, hHolds.quotesForVideo_eq, hFind, Earlier.join, bind, Except.bind]
  rfl

theorem isTaken_forVideo (hParse : Query.parse typed = Query.forVideo raw id)
    (hTyped : Text.trim typed ≠ "") : IsTaken typed where
  nonblank := hTyped
  compiles := hParse ▸ Query.compiles_forVideo
  words := hParse ▸ Query.length_words_forVideo

theorem isTaken_tagged_id (h : Tag.id.Carries id.toList) : IsTaken ("id:" ++ id) := by
  have hParse := Query.parse_tagged_id h
  apply isTaken_forVideo hParse
  have hRaw : (Query.parse ("id:" ++ id)).raw = Text.trim ("id:" ++ id) := rfl
  rw [← hRaw, hParse, Query.forVideo, ne_eq, ← String.toList_eq_nil_iff, String.toList_append]
  exact List.append_ne_nil_of_left_ne_nil (by decide) _

theorem isTaken_bare_id (h : Query.isBareId id.toList = true) : IsTaken id := by
  obtain ⟨hId, -⟩ := Query.isBareId_iff.mp h
  apply isTaken_forVideo (Query.parse_bare_id h)
  rw [Query.trim_id hId, ne_eq, ← String.toList_eq_nil_iff]
  exact hId.trimmed.2

/-- The answer to a query for a video, from the rows that its id finds. -/
theorem answer_forVideo (hParse : Query.parse typed = Query.forVideo raw id) (c : Catalog)
    (settings : SearchSettings) (sort : SortOrder) (tab : Option Tab) (number : UInt32) :
    (answer c settings ⟨typed, sort, tab, number⟩).videos = c.foundVideos [.videoId id] sort ∧
      (answer c settings ⟨typed, sort, tab, number⟩).totalQuoteMatches =
        (c.foundRows [.videoId id] sort).length ∧
      (answer c settings ⟨typed, sort, tab, number⟩).quotes =
        (Page.slice ⟨atLeastOne number, settings.quotesPerPage⟩ (c.foundRows [.videoId id] sort)).map
          (QuoteRow.annotate []) := by
  simp only [answer, hParse, Query.videoFilters_forVideo, Query.quoteFilters_forVideo,
    Query.highlightTerms_forVideo, and_self]

theorem search_tagged_id (hHolds : s.Holds c)
    (hService : ofSettings (s.reads draw) service.settings = .ok service) (hId : Tag.id.Carries id.toList)
    (sort : SortOrder) (tab : Option Tab) (number : UInt32) :
    service.search ⟨"id:" ++ id, sort, tab, number⟩ =
      .ok (answer c service.settings ⟨"id:" ++ id, sort, tab, number⟩) := by
  have hTaken := isTaken_tagged_id hId
  exact search_eq_answer hHolds hService hTaken.nonblank hTaken.compiles hTaken.words

/-- Every page of the search for a video lists it and counts its quotes. -/
theorem found_tagged_id (hCatalog : c.WellFormed) {v : Video} (hId : Tag.id.Carries v.id.toList)
    (hv : v ∈ c.videos) (settings : SearchSettings) (sort : SortOrder) (tab : Option Tab) (number : UInt32) :
    (answer c settings ⟨"id:" ++ v.id, sort, tab, number⟩).videos = [v] ∧
      (answer c settings ⟨"id:" ++ v.id, sort, tab, number⟩).totalQuoteMatches =
        ((c.transcript v.id).map Quote.timed).length := by
  obtain ⟨hVideos, hTotal, -⟩ := answer_forVideo (Query.parse_tagged_id hId) c settings sort tab number
  rw [hVideos, hTotal, hCatalog.foundVideos_videoId hv, hCatalog.foundRows_videoId hv, List.length_map,
    List.length_map]
  exact ⟨rfl, rfl⟩

/-- No word of the search is highlighted in its quotes. -/
theorem annotated_tagged_id (hCatalog : c.WellFormed) {v : Video} (hId : Tag.id.Carries v.id.toList)
    (hv : v ∈ c.videos) (sort : SortOrder) :
    (c.foundRows (Query.parse ("id:" ++ v.id)).quoteFilters sort).map
        (QuoteRow.annotate (Query.parse ("id:" ++ v.id)).highlightTerms) =
      ((c.transcript v.id).map Quote.timed).map (TimedQuote.shown v) := by
  rw [Query.parse_tagged_id hId, Query.quoteFilters_forVideo, Query.highlightTerms_forVideo,
    hCatalog.foundRows_videoId hv, List.map_map, List.map_map]
  exact List.map_congr_left fun q _ => QuoteRow.annotate_nil v q

theorem showsTranscript (hCatalog : c.WellFormed) (hHolds : s.Holds c)
    (hService : ofSettings (s.reads draw) service.settings = .ok service)
    (hId : Tag.id.Carries id.toList) {v : Video} (hv : v ∈ c.videos) (hOwn : v.id = id) :
    ShowsTranscript service ("id:" ++ id) sort tab ⟨v, (c.transcript id).map Quote.timed⟩
      (answer c service.settings ⟨"id:" ++ id, sort, tab, 1⟩) := by
  subst hOwn
  have hSearch := search_tagged_id hHolds hService hId sort tab
  have hFound := found_tagged_id hCatalog hId hv service.settings sort tab
  have hRun : ∀ numbers : List Nat,
      numbers.mapM (fun i => service.search ⟨"id:" ++ v.id, sort, tab, UInt32.ofNat i⟩) =
        .ok (numbers.map fun i => answer c service.settings ⟨"id:" ++ v.id, sort, tab, UInt32.ofNat i⟩) := by
    intro numbers
    simp only [hSearch]
    exact List.mapM_pure
  refine ⟨hSearch 1, (hFound 1).1, (hFound 1).2, ?_, ?_⟩
  · intro count _ hCount hBefore
    refine ⟨_, hRun _, ?_, ?_⟩
    · intro page hPage
      obtain ⟨i, -, rfl⟩ := List.mem_map.mp hPage
      exact hFound _
    · rw [List.flatMap_map, flatMap_answer hCount hBefore, annotated_tagged_id hCatalog hId hv]
  · intro hPages hBefore
    refine ⟨_, hRun _, ?_⟩
    rw [List.flatMap_map, flatMap_answer_quotes service.quotesPerPage_ne_zero hPages hBefore,
      annotated_tagged_id hCatalog hId hv]

theorem findsNothing_of_unknown (hCatalog : c.WellFormed) (hHolds : s.Holds c)
    (hService : ofSettings (s.reads draw) service.settings = .ok service)
    (hId : Tag.id.Carries id.toList) (hUnknown : id ∉ c.videos.map Video.id) :
    FindsNothing service ("id:" ++ id) sort tab := by
  intro number _
  obtain ⟨hVideos, hTotal, hQuotes⟩ :=
    answer_forVideo (Query.parse_tagged_id hId) c service.settings sort tab number
  refine ⟨_, search_tagged_id hHolds hService hId sort tab number, ?_, ?_, ?_⟩
  · rw [hVideos, Catalog.foundVideos_of_unknown hUnknown]
  · rw [hQuotes, hCatalog.foundRows_of_unknown hUnknown, Page.slice_nil, List.map_nil]
  · rw [hTotal, hCatalog.foundRows_of_unknown hUnknown, List.length_nil]

end SearchService

/-- Searching by id and opening the video show the same transcript. -/
theorem id_search_agrees_with_detail {s : Store} {c : Catalog} (hReachable : s.Reachable)
    (hHolds : s.Holds c) {draw : List QuoteRow → List QuoteRow} {settings : SearchSettings}
    {service : SearchService} (hService : ofSettings (s.reads draw) settings = .ok service) {id : String}
    (hLength : id.toList.length = Query.idLength) (hChars : id.toList.all Query.isBareIdChar = true)
    (sort : SortOrder) (tab : Option Tab) : AgreesWithDetail service c id sort tab := by
  obtain ⟨-, rfl⟩ := ofSettings_eq_ok hService
  have hCatalog := hReachable.catalog_wellFormed hHolds
  have hId : Tag.id.Carries id.toList := ⟨hLength, hChars⟩
  have hUnknown : id ∉ c.videos.map Video.id → FindsNothing service ("id:" ++ id) sort tab :=
    findsNothing_of_unknown hCatalog hHolds hService hId
  have hKnown : ∀ v ∈ c.videos, v.id = id → c.findVideo id = some v :=
    fun v hv hOwn => (Catalog.findVideo_eq_some_iff hCatalog.ids).mpr ⟨hv, hOwn⟩
  refine ⟨?_, ?_, hUnknown, ?_⟩
  · intro v hv hOwn
    exact ⟨_, _, videoDetail_eq_ok hHolds hService (hKnown v hv hOwn), rfl,
      showsTranscript hCatalog hHolds hService hId hv hOwn⟩
  · intro hSpecial number
    have hBare : Query.isBareId id.toList = true := Query.isBareId_iff.mpr ⟨hId, hSpecial⟩
    refine search_map_congr hService ?_ ?_ ?_
    · exact isTaken_bare_id hBare
    · exact isTaken_tagged_id hId
    · intro c
      simp only [answer, Query.parse_bare_id hBare, Query.parse_tagged_id hId, SearchPage.unechoed,
        Query.videoFilters_forVideo, Query.quoteFilters_forVideo, Query.highlightTerms_forVideo]
  · constructor
    · intro hNothing
      cases hFind : c.findVideo id with
      | none => exact videoDetail_eq_notFound hHolds hService hFind
      | some v =>
        obtain ⟨hv, hOwn⟩ := (Catalog.findVideo_eq_some_iff hCatalog.ids).mp hFind
        exact absurd hNothing
          (showsTranscript hCatalog hHolds hService hId hv hOwn).not_findsNothing
    · intro hDetail
      apply hUnknown
      intro hMem
      obtain ⟨v, hv, hOwn⟩ := List.mem_map.mp hMem
      rw [videoDetail_eq_ok hHolds hService (hKnown v hv hOwn)] at hDetail
      cases hDetail

theorem sample_id_search_agrees_with_detail :
    Store.sample.Reachable ∧ Store.sample.Holds sampleCatalog ∧
      ofSettings (Store.sample.reads id) ⟨1, 24, 10, []⟩ = .ok SearchService.sample ∧
      "hardcore001".toList.length = Query.idLength ∧ "hardcore001".toList.all Query.isBareIdChar = true ∧
      AgreesWithDetail SearchService.sample sampleCatalog "hardcore001" .newest none ∧
      ∃ detail first, SearchService.sample.videoDetail "hardcore001" = .ok detail ∧
        detail.video.title = "Minecraft Hardcore" ∧
        ShowsTranscript SearchService.sample "id:hardcore001" .newest none detail first := by
  have hAgrees := id_search_agrees_with_detail reachable_sample holds_sample ofSettings_sample
    (by decide : "hardcore001".toList.length = Query.idLength) (by decide) .newest none
  have hVideo : ⟨"hardcore001", "Minecraft Hardcore", "", ⟨2023, 1, 10, by decide⟩⟩ ∈ sampleCatalog.videos := by
    decide
  obtain ⟨detail, first, hDetail, hOwn, hShows⟩ := hAgrees.known _ hVideo rfl
  exact ⟨reachable_sample, holds_sample, ofSettings_sample, by decide, by decide, hAgrees, detail, first,
    hDetail, congrArg Video.title hOwn, hShows⟩

end QuoteSearch
