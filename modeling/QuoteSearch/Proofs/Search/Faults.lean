import Mathlib.Data.List.Forall2
import QuoteSearch.Proofs.Search.Statistics

/-! # Faults of a store

Every operation over any store, whose reads may return or fail as they like: it answers from what
all of its reads return, or it fails as one of them failed. Nothing is shown of a part of the reads,
whichever of them fail and in whatever order.
-/

namespace QuoteSearch

open SearchService WordPattern

namespace Earlier

variable {α β : Type} {earlier : Earlier} {a : SearchResult α} {b : SearchResult β}

theorem join_eq_ok {v : α × β} (h : earlier.join a b = .ok v) : a = .ok v.1 ∧ b = .ok v.2 := by
  cases a <;> cases b <;> cases earlier <;> cases h
  all_goals exact ⟨rfl, rfl⟩

/-- The fault that is reported is the one of the read that fails first. -/
theorem join_eq_error_iff {fault : SearchFault} : earlier.join a b = .error fault ↔
    (a = .error fault ∧ (earlier = .left ∨ ∃ value, b = .ok value)) ∨
      (b = .error fault ∧ (earlier = .right ∨ ∃ value, a = .ok value)) := by
  cases a <;> cases b <;> cases earlier <;> simp [join]

end Earlier

/-! ## What is shown of the values that are read -/

structure ShowsQuote (quote : Quote) (shown : TimedQuote) : Prop where
  id : shown.id = quote.id
  time : shown.time = Timestamp.format (some quote.startTime)
  startSeconds : shown.startSeconds = quote.startTime
  endSeconds : shown.endSeconds = quote.endTime
  content : shown.content = quote.content

structure ShowsRow (terms : List String) (row : QuoteRow) (shown : AnnotatedQuote) : Prop where
  id : shown.id = row.quote.id
  video : shown.video = row.video
  time : shown.time = Timestamp.format (some row.quote.startTime)
  startSeconds : shown.startSeconds = row.quote.startTime
  endSeconds : shown.endSeconds = row.quote.endTime
  content : shown.content = Highlight.highlight row.quote.content terms

/-- The least number of pages that have room for all entries, and at least one. -/
structure IsPageCount (size : UInt32) (total pages : Nat) : Prop where
  pos : 0 < pages
  enough : total ≤ pages * size.toNat
  least : ∀ fewer, 0 < fewer → fewer < pages → fewer * size.toNat < total

/-- The quotes were asked for and are not the only ones to be empty, or there is nothing but quotes. -/
def OpensQuotes (requested : Option Tab) (videos quotes : Nat) : Prop :=
  requested = some .quotes ∧ (0 < quotes ∨ videos = 0) ∨
    requested ≠ some .quotes ∧ videos = 0 ∧ 0 < quotes

/-- What the reads of a search return. -/
structure Found where
  videos : List Video
  total : Nat
  rows : List QuoteRow

/-- A page that shows what is found, all of it and nothing else. -/
structure ShowsFound (s : SearchService) (request : SearchRequest) (found : Found) (page : SearchPage) :
    Prop where
  query : page.query = Text.trim request.query
  sort : page.sort = request.sort
  videos : page.videos = found.videos
  quotes : List.Forall₂ (ShowsRow (Query.parse (Text.trim request.query)).highlightTerms) found.rows page.quotes
  total : page.totalQuoteMatches = found.total
  currentPage : page.currentPage.toNat = max request.page.toNat 1
  totalPages : IsPageCount s.settings.quotesPerPage found.total page.totalPages
  tab : page.activeTab = .quotes ↔ OpensQuotes request.requestedTab found.videos.length found.total

/-- The counts are sorted by name, and each name has the last count that was read for it. -/
structure Tallies (reads counts : List (String × Nat)) : Prop where
  sorted : counts.Pairwise fun a b => a.1 < b.1
  lookup : ∀ name, counts.lookup name = reads.reverse.lookup name

theorem Tab.choose_eq_quotes_iff {requested : Option Tab} {videos quotes : Nat} :
    Tab.choose requested videos quotes = .quotes ↔ OpensQuotes requested videos quotes := by
  rcases requested with - | (- | -)
  all_goals
    simp only [choose, OpensQuotes]
    split <;> simp <;> omega

theorem Page.isPageCount_count {p : Page} (hSize : p.size ≠ 0) (total : Nat) :
    IsPageCount p.size total (p.count total) where
  pos := p.count_pos total
  enough := le_count_mul hSize total
  least _ hFewer := (lt_count_iff hSize hFewer).mp

theorem SearchService.toNat_atLeastOne (number : UInt32) : (atLeastOne number).toNat = max number.toNat 1 := by
  rw [atLeastOne]
  split
  · rename_i hZero
    rw [hZero]
    rfl
  · rename_i hNumber
    have hPos : 0 < number.toNat := Nat.pos_of_ne_zero fun hZero => hNumber (UInt32.toNat_inj.mp hZero)
    rw [max_eq_left hPos]

theorem showsQuote_timed (quote : Quote) : ShowsQuote quote quote.timed := ⟨rfl, rfl, rfl, rfl, rfl⟩

theorem showsRow_annotate (terms : List String) (row : QuoteRow) : ShowsRow terms row (row.annotate terms) :=
  ⟨rfl, rfl, rfl, rfl, rfl, rfl⟩

theorem forall₂_map_right {α β : Type} {relation : α → β → Prop} {f : α → β} (h : ∀ a, relation a (f a))
    (as : List α) : List.Forall₂ relation as (as.map f) :=
  List.forall₂_map_right_iff.mpr (List.forall₂_same.mpr fun a _ => h a)

theorem SearchService.showsFound_shown (s : SearchService) (request : SearchRequest) (found : Found) :
    ShowsFound s request found (s.shown request found.videos found.total found.rows) where
  query := rfl
  sort := rfl
  videos := rfl
  quotes := forall₂_map_right (showsRow_annotate _) found.rows
  total := rfl
  currentPage := toNat_atLeastOne request.page
  totalPages := Page.isPageCount_count (p := ⟨_, s.settings.quotesPerPage⟩) s.quotesPerPage_ne_zero found.total
  tab := Tab.choose_eq_quotes_iff

/-- The answer to a blank query shows all the videos and no quotes, on one page. -/
theorem SearchService.showsFound_browsed (s : SearchService) {request : SearchRequest}
    (hBlank : Text.trim request.query = "") (videos : List Video) :
    ShowsFound s request ⟨videos, 0, []⟩ (browsed request videos) where
  query := hBlank.symm
  sort := rfl
  videos := rfl
  quotes := .nil
  total := rfl
  currentPage := toNat_atLeastOne request.page
  totalPages := ⟨Nat.one_pos, Nat.zero_le _, fun _ hPos hFewer => absurd hFewer (Nat.not_lt.mpr hPos)⟩
  tab := Tab.choose_eq_quotes_iff

namespace Tallies

variable {reads counts : List (String × Nat)} {name : String} {n : Nat}

theorem lookup_cons (entry : String × Nat) (rest : List (String × Nat)) (other : String) :
    (entry :: rest).lookup other = if other = entry.1 then some entry.2 else rest.lookup other := by
  rw [List.lookup_cons]
  by_cases hOther : other = entry.1
  · rw [if_pos hOther, beq_iff_eq.mpr hOther]
  · rw [if_neg hOther, beq_eq_false_iff_ne.mpr hOther]

theorem lookup_putCount (other : String) :
    (putCount name n counts).lookup other = if other = name then some n else counts.lookup other := by
  induction counts with
  | nil => rw [putCount, lookup_cons]
  | cons head rest ih =>
    rw [putCount]
    split
    · rw [lookup_cons]
    · split
      · rename_i hSame
        rw [lookup_cons, lookup_cons, ← hSame]
        split <;> rfl
      · rename_i hDistinct
        rw [lookup_cons, lookup_cons, ih]
        split
        · rename_i hFirst
          rw [if_neg fun hName => hDistinct (hName.symm.trans hFirst)]
        · rfl

theorem nil : Tallies [] [] := ⟨.nil, fun _ => rfl⟩

theorem put (h : Tallies reads counts) : Tallies (reads ++ [(name, n)]) (putCount name n counts) where
  sorted := pairwise_putCount h.sorted
  lookup other := by
    rw [lookup_putCount, h.lookup, List.reverse_concat, lookup_cons]

theorem putAll (entries : List (String × Nat)) (h : Tallies reads counts) :
    Tallies (reads ++ entries) (entries.foldl (fun counts entry => putCount entry.1 entry.2 counts) counts) := by
  induction entries generalizing reads counts with
  | nil => rwa [List.append_nil]
  | cons entry rest ih =>
    rw [← List.singleton_append, ← List.append_assoc]
    exact ih h.put

end Tallies

/-! ## What is made of the reads -/

/-- What an operation makes of its reads: if they all returned it answers and shows their values, and
if some of them failed it fails as one of these. -/
structure AnswersFrom {ρ α : Type} (returned : ρ → Prop) (failed : SearchFault → Prop)
    (shows : ρ → α → Prop) (result : SearchResult α) : Prop where
  answered : ∀ values, returned values → ∃ a, result = .ok a ∧ shows values a
  faulted : ∀ fault, failed fault → ∃ reported, failed reported ∧ result = .error reported
  onlyAnswered : ∀ a, result = .ok a → ∃ values, returned values ∧ shows values a

namespace AnswersFrom

variable {ρ α : Type} {returned : ρ → Prop} {failed : SearchFault → Prop} {shows : ρ → α → Prop}
  {result : SearchResult α}

theorem of_cases
    (hCases : (∃ values, returned values) ∨ ∃ fault, failed fault ∧ result = .error fault)
    (hAnswered : ∀ values, returned values → ∃ a, result = .ok a ∧ shows values a)
    (hApart : ∀ values fault, returned values → ¬ failed fault) :
    AnswersFrom returned failed shows result := by
  rcases hCases with ⟨values, hReturned⟩ | ⟨fault, hFailed, rfl⟩
  · refine ⟨hAnswered, fun fault h => absurd h (hApart values fault hReturned), fun a hResult => ?_⟩
    obtain ⟨a', hAnswer, hShows⟩ := hAnswered values hReturned
    cases hResult.symm.trans hAnswer
    exact ⟨values, hReturned, hShows⟩
  · refine ⟨hAnswered, fun _ _ => ⟨fault, hFailed, rfl⟩, fun a hResult => ?_⟩
    cases hResult

theorem of_read {read : SearchResult ρ} {build : ρ → SearchResult α}
    (hBuild : ∀ value, ∃ a, build value = .ok a ∧ shows value a) :
    AnswersFrom (fun value => read = .ok value) (fun fault => read = .error fault) shows (read >>= build) := by
  apply of_cases
  · cases read with
    | ok value => exact .inl ⟨value, rfl⟩
    | error fault => exact .inr ⟨fault, rfl, rfl⟩
  · rintro value rfl
    exact hBuild value
  · rintro value fault rfl h
    cases h

end AnswersFrom

/-- The reads of a search for something all return. -/
structure SearchReturned (s : SearchService) (request : SearchRequest) (found : Found) : Prop where
  videos : s.reads.listVideos (Query.parse (Text.trim request.query)).videoFilters request.sort = .ok found.videos
  total : s.reads.countQuotes (Query.parse (Text.trim request.query)).quoteFilters = .ok found.total
  rows : s.reads.listQuotes (Query.parse (Text.trim request.query)).quoteFilters request.sort
    ⟨atLeastOne request.page, s.settings.quotesPerPage⟩ = .ok found.rows

/-- One of the reads of a search for something fails. -/
inductive SearchFailed (s : SearchService) (request : SearchRequest) (fault : SearchFault) : Prop where
  | videos (h : s.reads.listVideos (Query.parse (Text.trim request.query)).videoFilters request.sort =
      .error fault)
  | total (h : s.reads.countQuotes (Query.parse (Text.trim request.query)).quoteFilters = .error fault)
  | rows (h : s.reads.listQuotes (Query.parse (Text.trim request.query)).quoteFilters request.sort
      ⟨atLeastOne request.page, s.settings.quotesPerPage⟩ = .error fault)

structure DetailReturned (s : SearchService) (id : String) (video : Option Video) (quotes : List Quote) :
    Prop where
  video : s.reads.findVideo id = .ok video
  quotes : s.reads.quotesForVideo id = .ok quotes

inductive DetailFailed (s : SearchService) (id : String) (fault : SearchFault) : Prop where
  | video (h : s.reads.findVideo id = .error fault)
  | quotes (h : s.reads.quotesForVideo id = .error fault)

/-- The fault of the read of a video and its transcript that fails first. -/
inductive DetailFirstFailed (s : SearchService) (id : String) (earlier : Earlier) (fault : SearchFault) :
    Prop where
  | video (h : s.reads.findVideo id = .error fault)
      (hFirst : earlier = .left ∨ ∃ quotes, s.reads.quotesForVideo id = .ok quotes)
  | quotes (h : s.reads.quotesForVideo id = .error fault)
      (hFirst : earlier = .right ∨ ∃ video, s.reads.findVideo id = .ok video)

theorem DetailFirstFailed.detailFailed {s : SearchService} {id : String} {earlier : Earlier} {fault : SearchFault}
    (h : DetailFirstFailed s id earlier fault) : DetailFailed s id fault := by
  cases h with
  | video h => exact .video h
  | quotes h => exact .quotes h

theorem detailFirstFailed_iff {s : SearchService} {id : String} {earlier : Earlier} {fault : SearchFault} :
    DetailFirstFailed s id earlier fault ↔
      earlier.join (s.reads.findVideo id) (s.reads.quotesForVideo id) = .error fault := by
  rw [Earlier.join_eq_error_iff]
  constructor
  · rintro (⟨h, hFirst⟩ | ⟨h, hFirst⟩)
    · exact .inl ⟨h, hFirst⟩
    · exact .inr ⟨h, hFirst⟩
  · rintro (⟨h, hFirst⟩ | ⟨h, hFirst⟩)
    · exact .video h hFirst
    · exact .quotes h hFirst

theorem DetailReturned.not_detailFailed {s : SearchService} {id : String} {video : Option Video}
    {quotes : List Quote} (h : DetailReturned s id video quotes) (fault : SearchFault) : ¬ DetailFailed s id fault := by
  rintro (hFault | hFault)
  · cases h.video.symm.trans hFault
  · cases h.quotes.symm.trans hFault

/-- The read for a group returns a count; nothing is read for blank words. -/
def GroupReturned (s : SearchService) (group : WordGroup) (count : Nat) : Prop :=
  match anyOf? group.words with
  | some p => s.reads.countOccurrences p = .ok count
  | none => count = 0

def GroupFailed (s : SearchService) (group : WordGroup) (fault : SearchFault) : Prop :=
  ∃ p, anyOf? group.words = some p ∧ s.reads.countOccurrences p = .error fault

/-- The first of the reads for some names that fails. -/
def FirstFailed (reads : List (String × SearchResult Nat)) (fault : SearchFault) : Prop :=
  ∃ earlier name later, reads = earlier ++ (name, .error fault) :: later ∧
    ∀ entry ∈ earlier, ∃ count, entry.2 = .ok count

def FirstGroupFailed (s : SearchService) (groups : List WordGroup) (fault : SearchFault) : Prop :=
  ∃ earlier group later, groups = earlier ++ group :: later ∧
    (∀ g ∈ earlier, ∃ count, GroupReturned s g count) ∧ GroupFailed s group fault

/-- What the operations of a service make of their reads. -/
structure ReportsFaults (s : SearchService) (timing : Timing) : Prop where
  browse : ∀ request, Text.trim request.query = "" →
    AnswersFrom (fun videos => s.reads.listVideos [] request.sort = .ok videos)
      (fun fault => s.reads.listVideos [] request.sort = .error fault)
      (fun videos => ShowsFound s request ⟨videos, 0, []⟩) (s.search request timing)
  search : ∀ request, Text.trim request.query ≠ "" →
    AnswersFrom (SearchReturned s request) (SearchFailed s request) (ShowsFound s request)
      (s.search request timing)
  listVideos : ∀ word sort number, let page : Page := ⟨atLeastOne number, s.settings.videosPerPage⟩
    AnswersFrom (fun videos => s.reads.listVideosPage (titleFilters word) sort page = .ok videos)
      (fun fault => s.reads.listVideosPage (titleFilters word) sort page = .error fault)
      (fun videos shown => shown.videos = videos ∧ shown.page.toNat = max number.toNat 1)
      (s.listVideos word sort number)
  videoDetail : ∀ id,
    AnswersFrom (fun found : Video × List Quote => DetailReturned s id (some found.1) found.2)
      (DetailFailed s id)
      (fun found detail => detail.video = found.1 ∧ List.Forall₂ ShowsQuote found.2 detail.quotes)
      (s.videoDetail id timing)
  -- A store may say itself that a video is missing, and then its word is passed on.
  notFound : ∀ id other, s.videoDetail id timing = .error (.notFound other) ↔
    (other = id ∧ ∃ quotes, DetailReturned s id none quotes) ∨
      DetailFirstFailed s id timing.detail (.notFound other)
  notFoundOfStore : ∀ (store : Store) draw, s.reads = store.reads draw → ∀ id,
    (s.videoDetail id timing = .error (.notFound id) ↔ ∃ quotes, DetailReturned s id none quotes)
  randomQuotes :
    AnswersFrom (fun rows => s.reads.randomQuotes s.settings.randomQuoteCount.toNat = .ok rows)
      (fun fault => s.reads.randomQuotes s.settings.randomQuoteCount.toNat = .error fault)
      (List.Forall₂ fun row shown => shown.video = row.video ∧ ShowsQuote row.quote shown.quote) s.randomQuotes
  wordStats :
    AnswersFrom (fun found => List.Forall₂ (GroupReturned s) s.settings.wordGroups found)
      (FirstGroupFailed s s.settings.wordGroups)
      (fun found => Tallies ((s.settings.wordGroups.map WordGroup.name).zip found)) s.wordStats
  -- The loop over the groups, whatever each single read of it does.
  countGroups : ∀ reads : List (String × SearchResult Nat),
    AnswersFrom (fun found => List.Forall₂ (fun entry count => entry.2 = .ok count) reads found)
      (FirstFailed reads) (fun found => Tallies ((reads.map Prod.fst).zip found)) (countGroups [] reads)

namespace SearchService

variable {s : SearchService}

theorem groupReturned_iff {group : WordGroup} {count : Nat} :
    GroupReturned s group count ↔ s.countGroup group.words = .ok count := by
  rw [GroupReturned, countGroup]
  cases anyOf? group.words with
  | some p => rfl
  | none => exact ⟨fun h => h ▸ rfl, fun h => (Except.ok.inj h).symm⟩

theorem groupFailed_iff {group : WordGroup} {fault : SearchFault} :
    GroupFailed s group fault ↔ s.countGroup group.words = .error fault := by
  rw [GroupFailed, countGroup]
  cases anyOf? group.words with
  | some p => simp
  | none => simp

theorem countGroups_cases (counts : List (String × Nat)) (reads : List (String × SearchResult Nat)) :
    (∃ found, List.Forall₂ (fun entry count => entry.2 = .ok count) reads found ∧
      countGroups counts reads = .ok (((reads.map Prod.fst).zip found).foldl
        (fun counts entry => putCount entry.1 entry.2 counts) counts)) ∨
    ∃ fault, FirstFailed reads fault ∧ countGroups counts reads = .error fault := by
  induction reads generalizing counts with
  | nil => exact .inl ⟨[], .nil, rfl⟩
  | cons entry rest ih =>
    obtain ⟨name, read⟩ := entry
    cases read with
    | error fault => exact .inr ⟨fault, ⟨[], name, rest, rfl, List.forall_mem_nil _⟩, rfl⟩
    | ok count =>
      rcases ih (putCount name count counts) with ⟨found, hFound, hEq⟩ | ⟨fault, hFirst, hEq⟩
      · exact .inl ⟨count :: found, .cons rfl hFound, hEq⟩
      · obtain ⟨earlier, failing, later, rfl, hEarlier⟩ := hFirst
        refine .inr ⟨fault, ⟨(name, .ok count) :: earlier, failing, later, rfl, ?_⟩, hEq⟩
        exact List.forall_mem_cons.mpr ⟨⟨count, rfl⟩, hEarlier⟩

theorem countGroups_answersFrom (reads : List (String × SearchResult Nat)) :
    AnswersFrom (fun found => List.Forall₂ (fun entry count => entry.2 = .ok count) reads found)
      (FirstFailed reads) (fun found => Tallies ((reads.map Prod.fst).zip found)) (countGroups [] reads) := by
  have hApart : ∀ found fault, List.Forall₂ (fun entry count => entry.2 = .ok count) reads found →
      ¬ FirstFailed reads fault := by
    rintro found fault hFound ⟨earlier, name, later, rfl, -⟩
    have hRest := List.forall₂_drop earlier.length hFound
    rw [List.drop_left, List.forall₂_cons_left_iff] at hRest
    obtain ⟨count, -, hCount, -⟩ := hRest
    cases hCount
  have hCases := countGroups_cases [] reads
  apply AnswersFrom.of_cases
  · exact hCases.imp_left fun ⟨found, hFound, _⟩ => ⟨found, hFound⟩
  · intro found hFound
    rcases hCases with ⟨found', hFound', hEq⟩ | ⟨fault, hFirst, -⟩
    · have hSame : found = found' := by
        refine List.right_unique_forall₂' (fun entry count count' hCount hCount' => ?_) hFound hFound'
        exact Except.ok.inj (hCount.symm.trans hCount')
      subst hSame
      exact ⟨_, hEq, Tallies.nil.putAll _⟩
    · exact absurd hFirst (hApart found fault hFound)
  · exact hApart

theorem search_of_returned {request : SearchRequest} (hTyped : Text.trim request.query ≠ "") {found : Found}
    (h : SearchReturned s request found) (timing : Timing) :
    s.search request timing = .ok (s.shown request found.videos found.total found.rows) := by
  simp only [search, if_neg hTyped, h.videos, h.total, h.rows, Earlier.join]
  rfl

theorem search_cases (s : SearchService) (timing : Timing) {request : SearchRequest}
    (hTyped : Text.trim request.query ≠ "") :
    (∃ found, SearchReturned s request found) ∨
      ∃ fault, SearchFailed s request fault ∧ s.search request timing = .error fault := by
  simp only [search, if_neg hTyped]
  -- Whatever fails first, the two joins report a read that failed.
  cases hJoin : timing.found.join _ (timing.quotes.join _ _) with
  | ok found =>
    obtain ⟨hVideos, hQuotes⟩ := Earlier.join_eq_ok hJoin
    obtain ⟨hTotal, hRows⟩ := Earlier.join_eq_ok hQuotes
    exact .inl ⟨⟨found.1, found.2.1, found.2.2⟩, hVideos, hTotal, hRows⟩
  | error fault =>
    refine .inr ⟨fault, ?_, rfl⟩
    rcases Earlier.join_eq_error_iff.mp hJoin with ⟨hVideos, -⟩ | ⟨hQuotes, -⟩
    · exact .videos hVideos
    · exact (Earlier.join_eq_error_iff.mp hQuotes).elim (fun h => .total h.1) fun h => .rows h.1

theorem exists_returned_of_search {request : SearchRequest} {timing : Timing} {page : SearchPage}
    (h : s.search request timing = .ok page) (hTyped : Text.trim request.query ≠ "") :
    ∃ found, SearchReturned s request found ∧ page = s.shown request found.videos found.total found.rows := by
  rcases s.search_cases timing hTyped with ⟨found, hFound⟩ | ⟨fault, -, hFault⟩
  · rw [search_of_returned hTyped hFound timing] at h
    exact ⟨found, hFound, (Except.ok.inj h).symm⟩
  · cases hFault.symm.trans h

theorem search_answersFrom (s : SearchService) (timing : Timing) {request : SearchRequest}
    (hTyped : Text.trim request.query ≠ "") :
    AnswersFrom (SearchReturned s request) (SearchFailed s request) (ShowsFound s request)
      (s.search request timing) := by
  apply AnswersFrom.of_cases
  · exact s.search_cases timing hTyped
  · intro found hFound
    exact ⟨_, search_of_returned hTyped hFound timing, s.showsFound_shown request found⟩
  · rintro found fault ⟨hVideos, hTotal, hRows⟩ (hFault | hFault | hFault)
    · cases hVideos.symm.trans hFault
    · cases hTotal.symm.trans hFault
    · cases hRows.symm.trans hFault

/-- What all the reads of a search return is shown whatever time they take. -/
theorem search_eq_ok_of_ok {s : SearchService} {request : SearchRequest} {timing : Timing} {page : SearchPage}
    (h : s.search request timing = .ok page) (timing' : Timing) : s.search request timing' = .ok page := by
  by_cases hTyped : Text.trim request.query = ""
  · simpa only [search, if_pos hTyped] using h
  · obtain ⟨found, hFound, rfl⟩ := exists_returned_of_search h hTyped
    exact search_of_returned hTyped hFound timing'

theorem videoDetail_of_returned {id : String} {video : Option Video} {quotes : List Quote}
    (h : DetailReturned s id video quotes) (timing : Timing) : s.videoDetail id timing = opened id quotes video := by
  simp only [videoDetail, h.video, h.quotes, Earlier.join]
  rfl

theorem videoDetail_eq_error {id : String} {timing : Timing} {fault : SearchFault}
    (h : DetailFirstFailed s id timing.detail fault) : s.videoDetail id timing = .error fault := by
  rw [videoDetail, detailFirstFailed_iff.mp h]
  rfl

theorem detail_cases (s : SearchService) (timing : Timing) (id : String) :
    (∃ video quotes, DetailReturned s id video quotes) ∨
      ∃ fault, DetailFirstFailed s id timing.detail fault := by
  cases hJoin : timing.detail.join (s.reads.findVideo id) (s.reads.quotesForVideo id) with
  | ok found =>
    obtain ⟨hVideo, hQuotes⟩ := Earlier.join_eq_ok hJoin
    exact .inl ⟨found.1, found.2, hVideo, hQuotes⟩
  | error fault => exact .inr ⟨fault, detailFirstFailed_iff.mpr hJoin⟩

theorem videoDetail_answersFrom (s : SearchService) (timing : Timing) (id : String) :
    AnswersFrom (fun found : Video × List Quote => DetailReturned s id (some found.1) found.2)
      (DetailFailed s id)
      (fun found detail => detail.video = found.1 ∧ List.Forall₂ ShowsQuote found.2 detail.quotes)
      (s.videoDetail id timing) := by
  have hCases := s.detail_cases timing id
  refine ⟨fun found hFound => ?_, fun fault hFault => ?_, fun detail hDetail => ?_⟩
  · exact ⟨_, videoDetail_of_returned hFound timing, rfl, forall₂_map_right showsQuote_timed found.2⟩
  · rcases hCases with ⟨video, quotes, hReturned⟩ | ⟨reported, hFirst⟩
    · exact absurd hFault (hReturned.not_detailFailed fault)
    · exact ⟨reported, hFirst.detailFailed, videoDetail_eq_error hFirst⟩
  · rcases hCases with ⟨video, quotes, hReturned⟩ | ⟨reported, hFirst⟩
    · rw [videoDetail_of_returned hReturned timing] at hDetail
      cases video with
      | none => cases hDetail
      | some video =>
        cases hDetail
        exact ⟨(video, quotes), hReturned, rfl, forall₂_map_right showsQuote_timed quotes⟩
    · cases (videoDetail_eq_error hFirst).symm.trans hDetail

/-- A video is reported as missing if it is, or if the read that fails first says so itself. -/
theorem videoDetail_eq_notFound_iff (s : SearchService) (timing : Timing) (id other : String) :
    s.videoDetail id timing = .error (.notFound other) ↔
      (other = id ∧ ∃ quotes, DetailReturned s id none quotes) ∨
        DetailFirstFailed s id timing.detail (.notFound other) := by
  rcases s.detail_cases timing id with ⟨video, quotes, hReturned⟩ | ⟨fault, hFirst⟩
  · have hNone : ¬ DetailFirstFailed s id timing.detail (.notFound other) := fun hFirst =>
      hReturned.not_detailFailed _ hFirst.detailFailed
    rw [videoDetail_of_returned hReturned timing, or_iff_left hNone]
    cases video with
    | none =>
      constructor
      · rintro hMissing
        cases hMissing
        exact ⟨rfl, quotes, hReturned⟩
      · rintro ⟨rfl, -⟩
        rfl
    | some video =>
      refine iff_of_false (fun hMissing => by cases hMissing) ?_
      rintro ⟨-, quotes', hMissing⟩
      cases hReturned.video.symm.trans hMissing.video
  · have hFault := videoDetail_eq_error hFirst
    constructor
    · intro hMissing
      cases hFault.symm.trans hMissing
      exact .inr hFirst
    · rintro (⟨-, quotes, hReturned⟩ | hOther)
      · exact absurd hFirst.detailFailed (hReturned.not_detailFailed fault)
      · exact videoDetail_eq_error hOther

/-- The store itself never says that a video is missing. -/
theorem not_detailFailed_notFound {store : Store} {draw : List QuoteRow → List QuoteRow}
    (hReads : s.reads = store.reads draw) (id other : String) : ¬ DetailFailed s id (.notFound other) := by
  rintro (hFault | hFault)
  all_goals
    rw [hReads] at hFault
    obtain ⟨reason, hReason⟩ := Store.exists_of_read_eq_error hFault
    cases hReason

theorem firstFailed_groupReads_iff (s : SearchService) (fault : SearchFault) :
    FirstFailed s.groupReads fault ↔ FirstGroupFailed s s.settings.wordGroups fault := by
  constructor
  · rintro ⟨earlier, name, later, hReads, hEarlier⟩
    obtain ⟨before, behind, hGroups, rfl, hBehind⟩ := List.map_eq_append_iff.mp hReads
    obtain ⟨group, after, rfl, hGroup, rfl⟩ := List.map_eq_cons_iff.mp hBehind
    refine ⟨before, group, after, hGroups, fun g hg => ?_, groupFailed_iff.mpr (Prod.ext_iff.mp hGroup).2⟩
    obtain ⟨count, hCount⟩ := hEarlier _ (List.mem_map_of_mem hg)
    exact ⟨count, groupReturned_iff.mpr hCount⟩
  · rintro ⟨before, group, after, hGroups, hBefore, hFailed⟩
    refine ⟨before.map fun g => (g.name, s.countGroup g.words), group.name,
      after.map fun g => (g.name, s.countGroup g.words), ?_, List.forall_mem_map.mpr fun g hg => ?_⟩
    · rw [groupReads, hGroups, List.map_append, List.map_cons, groupFailed_iff.mp hFailed]
    · obtain ⟨count, hCount⟩ := hBefore g hg
      exact ⟨count, groupReturned_iff.mp hCount⟩

theorem wordStats_answersFrom (s : SearchService) :
    AnswersFrom (fun found => List.Forall₂ (GroupReturned s) s.settings.wordGroups found)
      (FirstGroupFailed s s.settings.wordGroups)
      (fun found => Tallies ((s.settings.wordGroups.map WordGroup.name).zip found)) s.wordStats := by
  have hReturned : ∀ found, List.Forall₂ (fun entry count => entry.2 = .ok count) s.groupReads found ↔
      List.Forall₂ (GroupReturned s) s.settings.wordGroups found := by
    intro found
    simp only [groupReads, List.forall₂_map_left_iff, ← groupReturned_iff]
  have hNames : s.groupReads.map Prod.fst = s.settings.wordGroups.map WordGroup.name := by
    rw [groupReads, List.map_map]
    rfl
  obtain ⟨hAnswered, hFaulted, hOnly⟩ := countGroups_answersFrom s.groupReads
  simp only [hReturned, s.firstFailed_groupReads_iff, hNames] at hAnswered hFaulted hOnly
  exact ⟨hAnswered, hFaulted, hOnly⟩

theorem reportsFaults (s : SearchService) (timing : Timing) : ReportsFaults s timing where
  browse request hBlank := by
    rw [search, if_pos hBlank]
    exact AnswersFrom.of_read fun videos => ⟨_, rfl, s.showsFound_browsed hBlank videos⟩
  search _ hTyped := s.search_answersFrom timing hTyped
  listVideos _ _ number := AnswersFrom.of_read fun videos => ⟨_, rfl, rfl, toNat_atLeastOne number⟩
  videoDetail := s.videoDetail_answersFrom timing
  notFound := s.videoDetail_eq_notFound_iff timing
  notFoundOfStore _ _ hReads id := by
    have hNone : ¬ DetailFirstFailed s id timing.detail (.notFound id) := fun hFirst =>
      not_detailFailed_notFound hReads id id hFirst.detailFailed
    rw [s.videoDetail_eq_notFound_iff timing, or_iff_left hNone]
    exact and_iff_right rfl
  randomQuotes := by
    apply AnswersFrom.of_read
    exact fun rows => ⟨_, rfl, forall₂_map_right (fun row => ⟨rfl, showsQuote_timed row.quote⟩) rows⟩
  wordStats := s.wordStats_answersFrom
  countGroups := countGroups_answersFrom

end SearchService

end QuoteSearch
