import QuoteSearch.Http.Api
import QuoteSearch.Proofs.Search.Faults

/-! # Faults of a store over HTTP

A fault of the store is answered with one and the same response, whatever its text. Two stores that
behave alike up to the texts of their faults cannot be told apart by what is asked of them.
-/

namespace QuoteSearch

open SearchService

/-- The fault without the text that the store has given it. -/
def SearchFault.concealed : SearchFault → SearchFault
  | .storeUnavailable _ => .storeUnavailable ""
  | fault => fault

def concealed {α : Type} (result : SearchResult α) : SearchResult α := result.mapError SearchFault.concealed

theorem concealed_bind {α β : Type} (result : SearchResult α) (f : α → SearchResult β) :
    concealed (result >>= f) = concealed result >>= fun a => concealed (f a) := by
  cases result <;> rfl

theorem concealed_join {α β : Type} (earlier : Earlier) (a : SearchResult α) (b : SearchResult β) :
    concealed (earlier.join a b) = earlier.join (concealed a) (concealed b) := by
  cases a <;> cases b <;> cases earlier <;> rfl

/-- Reads that return the same and fail alike, but perhaps for other reasons within the store. -/
structure Reads.Alike (a b : Reads) : Prop where
  listVideos : ∀ filters sort, concealed (a.listVideos filters sort) = concealed (b.listVideos filters sort)
  listVideosPage : ∀ filters sort page,
    concealed (a.listVideosPage filters sort page) = concealed (b.listVideosPage filters sort page)
  countQuotes : ∀ filters, concealed (a.countQuotes filters) = concealed (b.countQuotes filters)
  listQuotes : ∀ filters sort page,
    concealed (a.listQuotes filters sort page) = concealed (b.listQuotes filters sort page)
  findVideo : ∀ id, concealed (a.findVideo id) = concealed (b.findVideo id)
  quotesForVideo : ∀ id, concealed (a.quotesForVideo id) = concealed (b.quotesForVideo id)
  randomQuotes : ∀ limit, concealed (a.randomQuotes limit) = concealed (b.randomQuotes limit)
  countOccurrences : ∀ pattern, concealed (a.countOccurrences pattern) = concealed (b.countOccurrences pattern)

namespace SearchService

variable {s s' : SearchService} (hReads : s.reads.Alike s'.reads) (hSettings : s.settings = s'.settings)

include hReads in
theorem concealed_browse (request : SearchRequest) :
    concealed (s.browse request) = concealed (s'.browse request) := by
  rw [browse, browse, concealed_bind, concealed_bind, hReads.listVideos]

include hReads hSettings in
theorem concealed_search (request : SearchRequest) (timing : Timing) :
    concealed (s.search request timing) = concealed (s'.search request timing) := by
  by_cases hTyped : Text.trim request.query = ""
  · simp only [search, if_pos hTyped, concealed_browse hReads]
  · simp only [search, if_neg hTyped, concealed_bind, concealed_join, hReads.listVideos, hReads.countQuotes,
      hReads.listQuotes, hSettings, shown]

include hReads hSettings in
theorem concealed_listVideos (word : String) (sort : SortOrder) (number : UInt32) :
    concealed (s.listVideos word sort number) = concealed (s'.listVideos word sort number) := by
  simp only [listVideos, concealed_bind, hReads.listVideosPage, hSettings]

include hReads in
theorem concealed_videoDetail (id : String) (timing : Timing) :
    concealed (s.videoDetail id timing) = concealed (s'.videoDetail id timing) := by
  simp only [videoDetail, concealed_bind, concealed_join, hReads.findVideo, hReads.quotesForVideo]

include hReads hSettings in
theorem concealed_randomQuotes : concealed s.randomQuotes = concealed s'.randomQuotes := by
  simp only [randomQuotes, concealed_bind, hReads.randomQuotes, hSettings]

include hReads in
theorem concealed_countGroup (words : List String) :
    concealed (s.countGroup words) = concealed (s'.countGroup words) := by
  rw [countGroup, countGroup]
  cases WordPattern.anyOf? words with
  | some pattern => exact hReads.countOccurrences pattern
  | none => rfl

theorem concealed_countGroups (counts : List (String × Nat)) (reads : List (String × SearchResult Nat)) :
    concealed (countGroups counts reads) =
      countGroups counts (reads.map fun entry => (entry.1, concealed entry.2)) := by
  induction reads generalizing counts with
  | nil => rfl
  | cons entry rest ih => simp only [countGroups, concealed_bind, List.map_cons, ih]

include hReads hSettings in
theorem concealed_wordStats : concealed s.wordStats = concealed s'.wordStats := by
  simp only [wordStats, groupReads, concealed_countGroups, List.map_map, Function.comp_def, hSettings,
    concealed_countGroup hReads]

end SearchService

namespace Http

/-- The response to whatever cannot be read of the store. -/
def unavailable : Response :=
  .ofBody 503 (.json (.obj [("code", .int 503), ("message", .str "store unavailable")]))

/-- The operation that answers a request fails because the store cannot be read. -/
inductive StoreFails (app : App) (query : String) (timing : Timing) : Route → String → Prop where
  | search {given : List (String × String)} {reason : String}
      (hGiven : parameters searchParameters [] (Text.formPairs query.toList) = .ok given)
      (hFails : app.service.search (searchRequest fun name => given.lookup name) timing =
        .error (.storeUnavailable reason)) : StoreFails app query timing .search reason
  | videos {given : List (String × String)} {request : SearchRequest} {reason : String}
      (hGiven : parameters listParameters [] (Text.formPairs query.toList) = .ok given)
      (hRequest : request = searchRequest fun name => given.lookup name)
      (hFails : app.service.listVideos request.query request.sort request.page =
        .error (.storeUnavailable reason)) : StoreFails app query timing .videos reason
  | video {segment id : List Char} {reason : String} (hId : Text.percentDecodeText segment = .ok id)
      (hFails : app.service.videoDetail (String.ofList id) timing = .error (.storeUnavailable reason)) :
      StoreFails app query timing (.video segment) reason
  | randomQuotes {reason : String} (hFails : app.service.randomQuotes = .error (.storeUnavailable reason)) :
      StoreFails app query timing .randomQuotes reason
  | stats {reason : String} (hFails : app.service.wordStats = .error (.storeUnavailable reason)) :
      StoreFails app query timing .stats reason

/-- Interfaces over stores that differ at most in the texts of their faults. -/
structure App.Alike (a b : App) : Prop where
  reads : a.service.reads.Alike b.service.reads
  settings : a.service.settings = b.service.settings
  buildTime : a.buildTime = b.buildTime

/-- Nothing of a fault of the store is told but that there is one. -/
structure HidesStoreFaults (app : App) (timing : Timing) : Prop where
  unavailable : ∀ query route reason, StoreFails app query timing route reason →
    get app query route timing = unavailable
  served : ∀ path query route reason, Route.ofPath path = some route →
    StoreFails app query timing route reason →
    respond app ⟨"GET", path, query⟩ timing = Http.unavailable.addHeaders sharingHeaders ∧
      respond app ⟨"HEAD", path, query⟩ timing = Http.unavailable.withoutBody.addHeaders sharingHeaders
  onlyThen : ∀ query route, (get app query route timing).status = 503 →
    ∃ reason, StoreFails app query timing route reason
  alike : ∀ other, app.Alike other → ∀ request, respond app request timing = respond other request timing

theorem answer_concealed {α : Type} (toJson : α → Json) (result : SearchResult α) :
    answer toJson (concealed result) = answer toJson result := by
  cases result with
  | ok a => rfl
  | error fault => cases fault <;> rfl

theorem answer_congr {α : Type} (toJson : α → Json) {result result' : SearchResult α}
    (h : concealed result = concealed result') : answer toJson result = answer toJson result' := by
  rw [← answer_concealed, h, answer_concealed]

/-- No other fault has this status. -/
theorem eq_storeUnavailable_of_status {α : Type} {toJson : α → Json} {result : SearchResult α}
    (h : (answer toJson result).status = 503) : ∃ reason, result = .error (.storeUnavailable reason) := by
  cases result with
  | ok a => cases h
  | error fault =>
    cases fault with
    | storeUnavailable reason => exact ⟨reason, rfl⟩
    | invalidInput reason => cases h
    | notFound id => cases h

theorem get_eq_unavailable {app : App} {query : String} {timing : Timing} {route : Route} {reason : String}
    (h : StoreFails app query timing route reason) : get app query route timing = unavailable := by
  cases h with
  | search hGiven hFails =>
    simp only [get, withParameters, hGiven, hFails]
    rfl
  | videos hGiven hRequest hFails =>
    subst hRequest
    simp only [get, withParameters, hGiven, hFails]
    rfl
  | video hId hFails =>
    simp only [get, videoResponse, hId, hFails]
    rfl
  | randomQuotes hFails =>
    simp only [get, hFails]
    rfl
  | stats hFails =>
    simp only [get, hFails]
    rfl

theorem exists_storeFails_of_status {app : App} {query : String} {timing : Timing} {route : Route}
    (h : (get app query route timing).status = 503) : ∃ reason, StoreFails app query timing route reason := by
  cases route with
  | health => cases h
  | search =>
    rw [get, withParameters] at h
    split at h
    · rename_i given hGiven
      obtain ⟨reason, hFails⟩ := eq_storeUnavailable_of_status h
      exact ⟨reason, .search hGiven hFails⟩
    · cases h
  | videos =>
    rw [get, withParameters] at h
    split at h
    · rename_i given hGiven
      obtain ⟨reason, hFails⟩ := eq_storeUnavailable_of_status h
      exact ⟨reason, .videos hGiven rfl hFails⟩
    · cases h
  | video segment =>
    rw [get, videoResponse] at h
    split at h
    · rename_i id hId
      obtain ⟨reason, hFails⟩ := eq_storeUnavailable_of_status h
      exact ⟨reason, .video hId hFails⟩
    · cases h
  | randomQuotes =>
    obtain ⟨reason, hFails⟩ := eq_storeUnavailable_of_status h
    exact ⟨reason, .randomQuotes hFails⟩
  | stats =>
    obtain ⟨reason, hFails⟩ := eq_storeUnavailable_of_status h
    exact ⟨reason, .stats hFails⟩

theorem get_eq_of_alike {app other : App} (h : app.Alike other) (query : String) (route : Route)
    (timing : Timing) : get app query route timing = get other query route timing := by
  obtain ⟨hReads, hSettings, hBuildTime⟩ := h
  cases route with
  | health => simp only [get, health, hSettings, hBuildTime]
  | search =>
    simp only [get, answer_congr SearchPage.toJson (concealed_search hReads hSettings _ timing)]
  | videos => simp only [get, answer_congr VideoPage.toJson (concealed_listVideos hReads hSettings _ _ _)]
  | video segment =>
    simp only [get, videoResponse, answer_congr VideoDetail.toJson (concealed_videoDetail hReads _ timing)]
  | randomQuotes => exact answer_congr _ (concealed_randomQuotes hReads hSettings)
  | stats => exact answer_congr _ (concealed_wordStats hReads hSettings)

theorem respond_eq_unavailable {app : App} {path query : String} {timing : Timing} {route : Route} {reason : String}
    (hRoute : Route.ofPath path = some route) (h : StoreFails app query timing route reason) :
    respond app ⟨"GET", path, query⟩ timing = unavailable.addHeaders sharingHeaders ∧
      respond app ⟨"HEAD", path, query⟩ timing = unavailable.withoutBody.addHeaders sharingHeaders := by
  have hGet := get_eq_unavailable h
  constructor
  · simp [respond, hRoute, hGet]
  · simp [respond, hRoute, hGet]

theorem hidesStoreFaults (app : App) (timing : Timing) : HidesStoreFaults app timing where
  unavailable _ _ _ := get_eq_unavailable
  served _ _ _ _ := respond_eq_unavailable
  onlyThen _ _ := exists_storeFails_of_status
  alike other h request := by simp only [respond, get_eq_of_alike h]

end Http

open Http

/-- What a store cannot tell is never shown as an answer, and why it cannot is never told. -/
theorem store_faults_never_become_answers (app : App) (timing : Timing) :
    ReportsFaults app.service timing ∧ HidesStoreFaults app timing :=
  ⟨app.service.reportsFaults timing, hidesStoreFaults app timing⟩

/-- A store of which nothing can be read. -/
def Reads.broken (reason : String) : Reads where
  listVideos _ _ := .error (.storeUnavailable reason)
  listVideosPage _ _ _ := .error (.storeUnavailable reason)
  countQuotes _ := .error (.storeUnavailable reason)
  listQuotes _ _ _ := .error (.storeUnavailable reason)
  findVideo _ := .error (.storeUnavailable reason)
  quotesForVideo _ := .error (.storeUnavailable reason)
  randomQuotes _ := .error (.storeUnavailable reason)
  countOccurrences _ := .error (.storeUnavailable reason)

def Http.App.broken (reason : String) : App :=
  ⟨⟨Reads.broken reason, SearchSettings.default, by decide, by decide⟩, "today"⟩

theorem broken_store_faults_never_become_answers :
    (App.broken "disk full").Alike (App.broken "locked") ∧
      StoreFails (App.broken "disk full") "" .inOrder .stats "disk full" ∧
      get (App.broken "disk full") "" .stats = unavailable ∧
      ∀ request, respond (App.broken "disk full") request = respond (App.broken "locked") request := by
  have hAlike : (App.broken "disk full").Alike (App.broken "locked") :=
    ⟨by constructor <;> intros <;> rfl, rfl, rfl⟩
  have hFails : StoreFails (App.broken "disk full") "" .inOrder .stats "disk full" := .stats rfl
  obtain ⟨-, hHides⟩ := store_faults_never_become_answers (App.broken "disk full") .inOrder
  exact ⟨hAlike, hFails, hHides.unavailable _ _ _ hFails, hHides.alike _ hAlike⟩

/-- A store of which nothing can be read, and which says of every video that it is missing. -/
def SearchService.denying (reason : String) : SearchService :=
  ⟨{ Reads.broken reason with findVideo := fun id => .error (.notFound id) }, SearchSettings.default,
    by decide, by decide⟩

/-- A video is reported as missing although its transcript cannot be read, because the store says so. And
who asks for the headers of a response only is told of a fault without an envelope. -/
theorem denied_video_is_reported_missing :
    (denying "disk full").reads.quotesForVideo "hardcore001" = .error (.storeUnavailable "disk full") ∧
      (denying "disk full").videoDetail "hardcore001" = .error (.notFound "hardcore001") ∧
      StoreFails (App.broken "disk full") "" .inOrder .videos "disk full" ∧
      (respond (App.broken "disk full") ⟨"HEAD", "/api/videos", ""⟩).status = 503 ∧
      (respond (App.broken "disk full") ⟨"HEAD", "/api/videos", ""⟩).body = .empty := by
  have hRoute : Route.ofPath "/api/videos" = some .videos := by decide +kernel
  have hFails : StoreFails (App.broken "disk full") "" .inOrder .videos "disk full" := .videos rfl rfl rfl
  obtain ⟨-, hHead⟩ := respond_eq_unavailable hRoute hFails
  rw [hHead]
  exact ⟨rfl, rfl, hFails, rfl, rfl⟩

end QuoteSearch
