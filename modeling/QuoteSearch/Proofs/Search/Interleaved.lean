import QuoteSearch.Proofs.Catalog.Growth
import QuoteSearch.Proofs.Search.Answer
import QuoteSearch.Proofs.Search.Faults

/-! # A search among writes

A search reads the store three times, and between two of the reads others may write. Each part of the
answer is what its own read finds, so the parts describe one state of the store if nothing is written
between the first read and the last, and otherwise they need not. Even then a page of quotes is never
longer than their number as long as the page is read first and no title is asked for.
-/

namespace QuoteSearch

inductive SearchRead where
  | videos
  | total
  | page
deriving DecidableEq

/-- What happens at a store while a search is under way. -/
inductive SearchEvent where
  | upsertVideos (videos : List Video)
  | insertQuotes (videoId : String) (quotes : List NewQuote)
  | read (part : SearchRead)

namespace SearchEvent

def call? : SearchEvent → Option Store.Call
  | .upsertVideos videos => some (.upsertVideos videos)
  | .insertQuotes videoId quotes => some (.insertQuotes videoId quotes)
  | .read _ => none

def takes (part : SearchRead) : SearchEvent → Bool
  | .read p => p == part
  | _ => false

/-- Nothing is written between the first and the last read of a search. -/
def Undisturbed (events : List SearchEvent) : Prop :=
  ∃ before reads after, events = before ++ (reads ++ after) ∧ (∀ e ∈ before, e.call? ≠ none) ∧
    (∀ e ∈ reads, e.call? = none) ∧ ∀ part, .read part ∈ reads

/-- One read is taken before the other. -/
def TakenBefore (first second : SearchRead) (events : List SearchEvent) : Prop :=
  ∃ before after, events = before ++ .read first :: after ∧ .read second ∉ before

theorem takes_eq_true_iff {part : SearchRead} {e : SearchEvent} : e.takes part = true ↔ e = .read part := by
  cases e with
  | read p => rw [takes, beq_iff_eq, read.injEq]
  | _ => simp [takes]

theorem takes_eq_false {part : SearchRead} {e : SearchEvent} (h : e.call? ≠ none) : e.takes part = false := by
  cases e with
  | read p => exact absurd rfl h
  | _ => rfl

end SearchEvent

namespace Store

open SearchEvent

/-- The store after an event. A write that fails leaves it as it is, and so does a read. -/
def afterEvent (s : Store) (e : SearchEvent) : Store := e.call?.elim s s.after

def afterEvents (s : Store) (events : List SearchEvent) : Store := events.foldl afterEvent s

/-- The store as it is when a read is taken. -/
def seenBy (s : Store) (part : SearchRead) : List SearchEvent → Store
  | [] => s
  | e :: rest => if e.takes part then s else (s.afterEvent e).seenBy part rest

/-- What a search reads that takes its reads among other events. -/
def readsAmong (s : Store) (draw : List QuoteRow → List QuoteRow) (events : List SearchEvent) : Reads :=
  { s.reads draw with
    listVideos := ((s.seenBy .videos events).reads draw).listVideos
    countQuotes := ((s.seenBy .total events).reads draw).countQuotes
    listQuotes := ((s.seenBy .page events).reads draw).listQuotes }

variable {s : Store} {part : SearchRead} {events : List SearchEvent}

theorem seenBy_append {before : List SearchEvent} (h : ∀ e ∈ before, e.takes part = false)
    (rest : List SearchEvent) : s.seenBy part (before ++ rest) = (s.afterEvents before).seenBy part rest := by
  induction before generalizing s with
  | nil => rfl
  | cons e before ih =>
    obtain ⟨hFirst, hRest⟩ := List.forall_mem_cons.mp h
    rw [List.cons_append, seenBy, hFirst, if_neg Bool.false_ne_true]
    exact ih hRest

theorem exists_before_seenBy (h : .read part ∈ events) :
    ∃ before after, events = before ++ .read part :: after ∧ s.seenBy part events = s.afterEvents before := by
  induction events generalizing s with
  | nil => cases h
  | cons e rest ih =>
    by_cases hTakes : e.takes part = true
    · obtain rfl := takes_eq_true_iff.mp hTakes
      exact ⟨[], rest, rfl, by rw [seenBy, if_pos hTakes]; rfl⟩
    · have hRest : .read part ∈ rest := (List.mem_cons.mp h).resolve_left fun hEq =>
        hTakes (takes_eq_true_iff.mpr hEq.symm)
      obtain ⟨before, after, rfl, hSeen⟩ := ih hRest
      exact ⟨e :: before, after, rfl, by rw [seenBy, if_neg hTakes]; exact hSeen⟩

theorem exists_afterEvents_seenBy (s : Store) (part : SearchRead) (events : List SearchEvent) :
    ∃ between, s.seenBy part events = s.afterEvents between := by
  induction events generalizing s with
  | nil => exact ⟨[], rfl⟩
  | cons e rest ih =>
    rw [seenBy]
    split
    · exact ⟨[], rfl⟩
    · obtain ⟨between, hBetween⟩ := ih (s.afterEvent e)
      exact ⟨e :: between, hBetween⟩

/-- Of two reads the second sees what some events make of the store that the first sees. -/
theorem exists_between_seenBy {first second : SearchRead} (h : TakenBefore first second events) :
    ∃ between, s.seenBy second events = (s.seenBy first events).afterEvents between := by
  obtain ⟨before, after, rfl, hBefore⟩ := h
  induction before generalizing s with
  | nil =>
    rw [List.nil_append, seenBy.eq_2 s first, if_pos (takes_eq_true_iff.mpr rfl)]
    exact s.exists_afterEvents_seenBy second _
  | cons e before ih =>
    obtain ⟨hFirst, hRest⟩ := not_or.mp (List.mem_cons.not.mp hBefore)
    have hLater : e.takes second ≠ true := fun hTakes => hFirst (takes_eq_true_iff.mp hTakes).symm
    rw [List.cons_append, seenBy.eq_2 s first]
    split
    · -- The first read was taken even earlier than where it stands here.
      exact s.exists_afterEvents_seenBy second _
    · rw [seenBy, if_neg hLater]
      exact ih hRest

theorem seenBy_of_reads {reads : List SearchEvent} (hReads : ∀ e ∈ reads, e.call? = none)
    (hTaken : .read part ∈ reads) (after : List SearchEvent) : s.seenBy part (reads ++ after) = s := by
  induction reads with
  | nil => cases hTaken
  | cons e reads ih =>
    obtain ⟨hFirst, hRest⟩ := List.forall_mem_cons.mp hReads
    rw [List.cons_append, seenBy]
    split
    · rfl
    · rename_i hTakes
      rw [afterEvent, hFirst, Option.elim_none]
      exact ih hRest ((List.mem_cons.mp hTaken).resolve_left fun hEq =>
        hTakes (takes_eq_true_iff.mpr hEq.symm))

/-- All reads of an undisturbed search see the store in one state. -/
theorem exists_state_of_undisturbed (h : Undisturbed events) :
    ∃ before after, events = before ++ after ∧ ∀ part, s.seenBy part events = s.afterEvents before := by
  obtain ⟨before, reads, after, rfl, hBefore, hReads, hTaken⟩ := h
  refine ⟨before, reads ++ after, rfl, fun part => ?_⟩
  rw [seenBy_append (fun e he => takes_eq_false (hBefore e he)), seenBy_of_reads hReads (hTaken part)]

theorem afterEvents_eq_run (s : Store) (events : List SearchEvent) :
    s.afterEvents events = s.run (events.filterMap call?) := by
  rw [afterEvents, run, List.foldl_filterMap]
  congr
  funext s e
  rw [afterEvent]
  cases e.call? <;> rfl

theorem Reachable.afterEvents (h : s.Reachable) (events : List SearchEvent) : (s.afterEvents events).Reachable := by
  obtain ⟨new, calls, hNew, rfl⟩ := h
  rw [afterEvents_eq_run]
  exact ⟨new, calls ++ events.filterMap call?, hNew, List.foldl_append.symm⟩

theorem Reachable.seenBy (h : s.Reachable) (part : SearchRead) (events : List SearchEvent) :
    (s.seenBy part events).Reachable := by
  obtain ⟨between, hBetween⟩ := s.exists_afterEvents_seenBy part events
  exact hBetween ▸ h.afterEvents between

/-- What is written between two reads only adds to what the store holds. -/
theorem exists_extends_seenBy {first second : SearchRead} (h : TakenBefore first second events) :
    ∃ ids entries, (s.seenBy first events).catalog.Extends (s.seenBy second events).catalog ids entries := by
  obtain ⟨between, hBetween⟩ := exists_between_seenBy (s := s) h
  rw [hBetween, afterEvents_eq_run]
  refine ⟨_, _, (s.seenBy first events).extends_run _ fun hReopen => ?_⟩
  obtain ⟨e, -, hCall⟩ := List.mem_filterMap.mp hReopen
  cases e <;> cases hCall

variable {draw : List QuoteRow → List QuoteRow} {filters : List Filter} {sort : SortOrder}

/-- A page from one state of the store is no longer than the total from another in which no fewer
quotes are found. -/
theorem length_page_le {earlier later : Store} {page : Page} {rows : List QuoteRow} {total : Nat}
    (hRows : (earlier.reads draw).listQuotes filters sort page = .ok rows)
    (hTotal : (later.reads draw).countQuotes filters = .ok total)
    (hGrows : (earlier.catalog.foundRows filters sort).length ≤ (later.catalog.foundRows filters sort).length) :
    rows.length ≤ total := by
  obtain ⟨c, hEarlier, hQuery⟩ := read_eq_ok hRows
  obtain ⟨c', hLater, hCount⟩ := read_eq_ok hTotal
  obtain ⟨found, hFound, rfl⟩ := exists_of_map_eq_ok hQuery
  rw [hEarlier.catalog_eq, hLater.catalog_eq, Catalog.listQuotes_eq_ok hFound,
    Catalog.countQuotes_eq_ok hCount sort] at hGrows
  calc (page.slice found).length
    _ ≤ found.length := by
      rw [Page.slice, List.length_take, List.length_drop]
      omega
    _ ≤ total := hGrows

end Store

namespace SearchService

open Store SearchEvent

def withReads (s : SearchService) (reads : Reads) : SearchService := { s with reads }

theorem search_congr (a b : SearchService) (hSettings : a.settings = b.settings)
    (hVideos : a.reads.listVideos = b.reads.listVideos) (hTotal : a.reads.countQuotes = b.reads.countQuotes)
    (hRows : a.reads.listQuotes = b.reads.listQuotes) (request : SearchRequest) (timing : Timing) :
    a.search request timing = b.search request timing := by
  simp only [search, browse, shown, hSettings, hVideos, hTotal, hRows]

/-- For a blank query only the videos are read. -/
theorem search_congr_of_blank (a b : SearchService) (hVideos : a.reads.listVideos = b.reads.listVideos)
    {request : SearchRequest} (hBlank : Text.trim request.query = "") (timing : Timing) :
    a.search request timing = b.search request timing := by
  simp only [search, if_pos hBlank, browse, hVideos]

variable {s : Store} {draw : List QuoteRow → List QuoteRow} {settings : SearchSettings} {service : SearchService}
  {request : SearchRequest} {timing : Timing} {page : SearchPage}

/-- The page of a search is no longer than its total, if no fewer quotes are found in the state that
is counted. -/
theorem length_quotes_le {earlier later : Store} (h : service.search request timing = .ok page)
    (hRows : service.reads.listQuotes = (earlier.reads draw).listQuotes)
    (hTotal : service.reads.countQuotes = (later.reads draw).countQuotes)
    (hGrows : (earlier.catalog.foundRows (Query.parse request.query).quoteFilters request.sort).length ≤
      (later.catalog.foundRows (Query.parse request.query).quoteFilters request.sort).length) :
    page.quotes.length ≤ page.totalQuoteMatches := by
  by_cases hTyped : Text.trim request.query = ""
  · rw [search, if_pos hTyped] at h
    obtain ⟨videos, -, hPage⟩ := exists_of_bind_eq_ok h
    cases hPage
    exact Nat.zero_le _
  · obtain ⟨found, ⟨-, hCount, hList⟩, rfl⟩ := exists_returned_of_search h hTyped
    rw [Query.parse_trim, hTotal] at hCount
    rw [Query.parse_trim, hRows] at hList
    rw [shown, List.length_map]
    exact length_page_le hList hCount hGrows

end SearchService

open Store SearchService SearchEvent

/-- What the answer of a search tells of a store that others write to meanwhile. -/
structure AnswersPerRead (s : Store) (draw : List QuoteRow → List QuoteRow) (events : List SearchEvent)
    (service : SearchService) (request : SearchRequest) : Prop where
  /-- Each read sees what the events in front of it make of the store. -/
  taken : ∀ part, ∃ before after, events = before ++ .read part :: after ∧
    s.seenBy part events = s.afterEvents before
  /-- Each part of the answer is what its own read returns. -/
  parts : Text.trim request.query ≠ "" → ∀ timing page, service.search request timing = .ok page → ∃ rows,
    ((s.seenBy .videos events).reads draw).listVideos (Query.parse request.query).videoFilters request.sort =
        .ok page.videos ∧
      ((s.seenBy .total events).reads draw).countQuotes (Query.parse request.query).quoteFilters =
        .ok page.totalQuoteMatches ∧
      ((s.seenBy .page events).reads draw).listQuotes (Query.parse request.query).quoteFilters request.sort
        ⟨atLeastOne request.page, service.settings.quotesPerPage⟩ = .ok rows ∧
      page.quotes = rows.map (QuoteRow.annotate (Query.parse request.query).highlightTerms)
  /-- Without a write between the reads the whole search is one of the store in one state. For a blank
  query there is only one read. -/
  oneState : Text.trim request.query = "" ∨ Undisturbed events → ∃ before after, events = before ++ after ∧ ∀ timing,
    service.search request timing = (service.withReads ((s.afterEvents before).reads draw)).search request timing
  pageFits : Undisturbed events ∨ (Query.parse request.query).title = none ∧ TakenBefore .page .total events →
    ∀ timing page, service.search request timing = .ok page → page.quotes.length ≤ page.totalQuoteMatches

/-- Each part of a search's answer is what its read finds in the store when it is taken. The parts
describe one state of the store if nothing is written between the reads. -/
theorem search_answers_per_read {s : Store} (hReachable : s.Reachable) {events : List SearchEvent}
    (hReads : ∀ part, .read part ∈ events) {draw : List QuoteRow → List QuoteRow} {settings : SearchSettings}
    {service : SearchService} (hService : ofSettings (s.readsAmong draw events) settings = .ok service)
    (request : SearchRequest) : AnswersPerRead s draw events service request := by
  obtain ⟨hSees, -⟩ := ofSettings_eq_ok hService
  have hVideos : service.reads.listVideos = ((s.seenBy .videos events).reads draw).listVideos := by
    rw [hSees, readsAmong]
  have hTotal : service.reads.countQuotes = ((s.seenBy .total events).reads draw).countQuotes := by
    rw [hSees, readsAmong]
  have hRows : service.reads.listQuotes = ((s.seenBy .page events).reads draw).listQuotes := by
    rw [hSees, readsAmong]
  refine ⟨fun part => exists_before_seenBy (hReads part), ?_, ?_, ?_⟩
  · intro hTyped timing page hPage
    obtain ⟨⟨videos, total, rows⟩, hFound, rfl⟩ := exists_returned_of_search hPage hTyped
    rw [← hVideos, ← hTotal, ← hRows, ← Query.parse_trim]
    exact ⟨rows, hFound.videos, hFound.total, hFound.rows, rfl⟩
  · rintro (hBlank | hUndisturbed)
    · obtain ⟨before, after, hEvents, hState⟩ := exists_before_seenBy (s := s) (hReads .videos)
      rw [hState] at hVideos
      exact ⟨before, .read .videos :: after, hEvents,
        service.search_congr_of_blank (service.withReads _) hVideos hBlank⟩
    · obtain ⟨before, after, hEvents, hState⟩ := exists_state_of_undisturbed (s := s) hUndisturbed
      rw [hState] at hVideos hTotal hRows
      refine ⟨before, after, hEvents, fun timing => ?_⟩
      have hSame : (service.withReads ((s.afterEvents before).reads draw)).settings = service.settings := rfl
      exact service.search_congr _ hSame.symm hVideos hTotal hRows request timing
  · intro hQuiet timing page hPage
    refine length_quotes_le hPage hRows hTotal ?_
    rcases hQuiet with hUndisturbed | ⟨hTitle, hOrder⟩
    · obtain ⟨before, after, -, hState⟩ := exists_state_of_undisturbed (s := s) hUndisturbed
      rw [hState, hState]
    · -- Nothing takes a quote away from those that the page is cut from.
      obtain ⟨ids, entries, hExtends⟩ := exists_extends_seenBy (s := s) hOrder
      exact hExtends.length_foundRows_le (hReachable.seenBy .page events).wellFormed.catalog
        (hReachable.seenBy .total events).wellFormed.catalog (Query.kind_ne_title_of_mem_quoteFilters hTitle)

/-- Quotes are written after the page is read and before the matches are counted. -/
def writeBeforeTotal : List SearchEvent :=
  [.read .page, .insertQuotes "hardcore001" [⟨90, 92, "a zombie"⟩], .read .total, .read .videos]

/-- Quotes are written after the matches are counted and before the page is read. -/
def writeAfterTotal : List SearchEvent :=
  [.read .total, .insertQuotes "hardcore001" [⟨90, 92, "a zombie"⟩], .read .page, .read .videos]

def SearchService.among (events : List SearchEvent) : SearchService :=
  SearchService.sample.withReads (Store.sample.readsAmong id events)

theorem SearchService.ofSettings_among (events : List SearchEvent) :
    ofSettings (Store.sample.readsAmong id events) ⟨1, 24, 10, []⟩ = .ok (among events) := rfl

theorem sample_search_answers_per_read :
    Store.sample.Reachable ∧ (∀ part, .read part ∈ writeBeforeTotal) ∧
      TakenBefore .page .total writeBeforeTotal ∧ (Query.parse "a, zombie").title = none ∧
      AnswersPerRead Store.sample id writeBeforeTotal (among writeBeforeTotal) ⟨"a, zombie", .newest, none, 1⟩ := by
  have hReads : ∀ part, .read part ∈ writeBeforeTotal := by
    intro part
    cases part <;> simp [writeBeforeTotal]
  exact ⟨reachable_sample, hReads, ⟨[], _, rfl, List.not_mem_nil⟩, by decide +kernel,
    search_answers_per_read reachable_sample hReads (ofSettings_among writeBeforeTotal) _⟩

/-- The answer shows a quote and counts none, so there is no state of a store that it describes. -/
theorem search_among_writes_describes_no_state :
    Store.sample.Reachable ∧ (∀ part, .read part ∈ writeAfterTotal) ∧
      ∃ page, (among writeAfterTotal).search ⟨"zombie", .newest, none, 1⟩ = .ok page ∧
        page.totalQuoteMatches = 0 ∧ page.quotes.length = 1 ∧ page.videos = [] ∧ page.activeTab = .videos ∧
        ∀ (state : Store) timing, ((among writeAfterTotal).withReads (state.reads id)).search
          ⟨"zombie", .newest, none, 1⟩ timing ≠ .ok page := by
  have hReads : ∀ part, .read part ∈ writeAfterTotal := by
    intro part
    cases part <;> simp [writeAfterTotal]
  have hSearch : ((among writeAfterTotal).search ⟨"zombie", .newest, none, 1⟩).map
      (fun page => (page.totalQuoteMatches, page.quotes.length, page.videos, page.activeTab)) =
        .ok (0, 1, [], .videos) := by decide +kernel
  obtain ⟨page, hPage, hView⟩ := exists_of_map_eq_ok hSearch
  simp only [Prod.mk.injEq] at hView
  obtain ⟨hTotal, hQuotes, hVideos, hTab⟩ := hView
  refine ⟨reachable_sample, hReads, page, hPage, hTotal, hQuotes, hVideos, hTab, fun state timing hState => ?_⟩
  have hFits := length_quotes_le hState rfl rfl (Nat.le_refl _)
  omega

end QuoteSearch
