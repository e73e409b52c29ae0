import QuoteSearch.Proofs.Http.Faults
import QuoteSearch.Proofs.Search.Answer

/-! # Envelopes

Every request that gets as far as an operation is answered with an envelope, whatever the operation
comes to. A store that can be read always has an answer for a list of videos and for a search that it
takes; parameters are read leniently, so none of their values is refused. Pages are asked for by their
numbers as long as 63 bits count what stands before them.
-/

namespace QuoteSearch

open Store SearchService

namespace Http

/-- A response with an envelope: the code is the status, and there are data if it is that of success. -/
structure IsEnvelope (r : Response) : Prop where
  body : ∃ message data, r.body = .json (.obj
    (("code", .int r.status) :: ("message", .str message) :: (Option.toList data).map fun d => ("data", d))) ∧
    (data.isSome = true ↔ r.status = 200)
  contentType : r.header? "content-type" = some "application/json"

/-- The parameters of a query string that an operation knows. -/
def knownPairs (known : List String) (query : String) : List (String × String) :=
  (Text.formPairs query.toList).filter fun pair => pair.1 ∈ known

/-- The search that a query string asks for. -/
def asked (known : List String) (query : String) : SearchRequest :=
  searchRequest fun name => (knownPairs known query).lookup name

/-- What stands in front of the operations lets the request pass: no parameter that the operation knows is
given twice, and the id of a video is a text. -/
def Accepts (query : String) : Route → Prop
  | .search => ((knownPairs searchParameters query).map Prod.fst).Nodup
  | .videos => ((knownPairs listParameters query).map Prod.fst).Nodup
  | .video segment => ∃ id, Text.percentDecodeText segment = .ok id
  | _ => True

/-- A page of a list that a request asks for: 63 bits count the entries before it. -/
def AsksInRange (settings : SearchSettings) (query : String) : Route → Prop
  | .search =>
    Page.before ⟨atLeastOne (asked searchParameters query).page, settings.quotesPerPage⟩ < 2 ^ 63
  | .videos => Page.before ⟨atLeastOne (asked listParameters query).page, settings.videosPerPage⟩ < 2 ^ 63
  | _ => True

/-- A store that can be read has an answer to a list of videos and to a search that it takes. -/
structure AnswersLeniently (app : App) (query : String) (timing : Timing) : Prop where
  videos : Accepts query .videos → AsksInRange app.service.settings query .videos →
    (∀ f ∈ titleFilters (asked listParameters query).query, f.compiles = true) →
      (respond app ⟨"GET", "/api/videos", query⟩ timing).status = 200
  search : Accepts query .search → AsksInRange app.service.settings query .search →
    (Query.parse (asked searchParameters query).query).compiles = true →
      (Query.parse (asked searchParameters query).query).words.length ≤ Query.mostWords →
      (respond app ⟨"GET", "/api/search", query⟩ timing).status = 200

theorem parameters_eq_ok {known : List String} {given pairs : List (String × String)}
    (h : ((given ++ pairs.filter fun pair => pair.1 ∈ known).map Prod.fst).Nodup) :
    parameters known given pairs = .ok (given ++ pairs.filter fun pair => pair.1 ∈ known) := by
  induction pairs generalizing given with
  | nil => rw [parameters, List.filter_nil, List.append_nil]
  | cons pair rest ih =>
    obtain ⟨name, value⟩ := pair
    rw [parameters]
    by_cases hKnown : name ∈ known
    · rw [List.filter_cons_of_pos (by simpa using hKnown)] at h ⊢
      have hNew : given.lookup name = none := lookup_eq_none_of_nodup h
      rw [if_neg (not_not_intro hKnown), hNew, if_neg (by simp), ih (by simpa using h), List.append_assoc]
      rfl
    · rw [List.filter_cons_of_neg (by simpa using hKnown)] at h ⊢
      rw [if_pos hKnown, ih h]

theorem withParameters_eq {known : List String} {query : String}
    (h : ((knownPairs known query).map Prod.fst).Nodup) (respond : (String → Option String) → Response) :
    withParameters known query respond = respond fun name => (knownPairs known query).lookup name := by
  have hGiven : parameters known [] (Text.formPairs query.toList) = .ok (knownPairs known query) :=
    parameters_eq_ok h
  rw [withParameters, hGiven]

theorem get_search {query : String} (h : Accepts query .search) (app : App) (timing : Timing) :
    get app query .search timing =
      answer SearchPage.toJson (app.service.search (asked searchParameters query) timing) := by
  rw [get, withParameters_eq h, asked]

theorem get_videos {query : String} (h : Accepts query .videos) (app : App) (timing : Timing) :
    get app query .videos timing = answer VideoPage.toJson (app.service.listVideos
      (asked listParameters query).query (asked listParameters query).sort (asked listParameters query).page) := by
  simp only [get, withParameters_eq h, asked]

theorem isEnvelope_success (data : Json) : IsEnvelope (success data) :=
  ⟨⟨"success", some data, rfl, iff_of_true rfl rfl⟩, rfl⟩

theorem isEnvelope_failure (fault : SearchFault) : IsEnvelope (failure fault) := by
  refine ⟨⟨publicMessage fault, none, rfl, iff_of_false Bool.false_ne_true ?_⟩, rfl⟩
  cases fault <;> simp [failure, statusOf, Response.ofBody]

theorem isEnvelope_answer {α : Type} (toJson : α → Json) (result : SearchResult α) :
    IsEnvelope (answer toJson result) := by
  cases result with
  | ok a => exact isEnvelope_success _
  | error fault => exact isEnvelope_failure fault

theorem isEnvelope_get (app : App) (timing : Timing) {query : String} {route : Route}
    (h : Accepts query route) : IsEnvelope (get app query route timing) := by
  cases route with
  | health => exact isEnvelope_success _
  | search =>
    rw [get_search h]
    exact isEnvelope_answer _ _
  | videos =>
    rw [get_videos h]
    exact isEnvelope_answer _ _
  | video segment =>
    obtain ⟨id, hId⟩ := h
    simp only [get, videoResponse, hId]
    exact isEnvelope_answer _ _
  | randomQuotes => exact isEnvelope_answer _ _
  | stats => exact isEnvelope_answer _ _

theorem not_isEnvelope_refuse (reason : String) (headers : List (String × String)) :
    ¬ IsEnvelope ((refuse reason).addHeaders headers) := by
  intro h
  obtain ⟨message, data, hBody, -⟩ := h.body
  cases hBody

theorem IsEnvelope.addHeaders {r : Response} (h : IsEnvelope r) (headers : List (String × String)) :
    IsEnvelope (r.addHeaders headers) := by
  refine ⟨h.body, ?_⟩
  have hType := h.contentType
  rw [Response.header?] at hType ⊢
  rw [Response.addHeaders, List.lookup_append, hType]
  rfl

theorem respond_of_route {app : App} {path : String} {route : Route} (h : Route.ofPath path = some route)
    (query : String) (timing : Timing) :
    respond app ⟨"GET", path, query⟩ timing = (get app query route timing).addHeaders sharingHeaders := by
  simp [respond, h]

theorem ofPath_search : Route.ofPath "/api/search" = some .search := by decide +kernel

theorem ofPath_videos : Route.ofPath "/api/videos" = some .videos := by decide +kernel

theorem answersLeniently {s : Store} {c : Catalog} (hHolds : s.Holds c)
    {draw : List QuoteRow → List QuoteRow} {settings : SearchSettings} {app : App}
    (hService : ofSettings (s.reads draw) settings = .ok app.service) (query : String) (timing : Timing) :
    AnswersLeniently app query timing where
  videos hAccepts _ hCompiles := by
    obtain ⟨page, hPage⟩ := exists_listVideos_eq_ok hHolds hService hCompiles
      (asked listParameters query).sort (asked listParameters query).page
    rw [respond_of_route ofPath_videos, get_videos hAccepts, hPage]
    rfl
  search hAccepts _ hCompiles hWords := by
    obtain ⟨page, hPage⟩ := exists_search_eq_ok hHolds hService hCompiles hWords
    rw [respond_of_route ofPath_search, get_search hAccepts, search_eq_ok_of_ok hPage timing]
    rfl

end Http

open Http

/-- What passes the checks in front of the operations is answered with an envelope, and a store that can be
read has an answer to every list and to every search that it takes. -/
theorem accepted_requests_are_answered_with_envelopes {s : Store}
    {draw : List QuoteRow → List QuoteRow} {settings : SearchSettings} {app : App}
    (hService : ofSettings (s.reads draw) settings = .ok app.service) {path : String} {route : Route}
    (hRoute : Route.ofPath path = some route) {query : String} (hAccepts : Accepts query route) (timing : Timing) :
    (AsksInRange app.service.settings query route → IsEnvelope (respond app ⟨"GET", path, query⟩ timing)) ∧
      ∀ c, s.Holds c → AnswersLeniently app query timing := by
  rw [respond_of_route hRoute]
  exact ⟨fun _ => (isEnvelope_get app timing hAccepts).addHeaders _,
    fun c hHolds => answersLeniently hHolds hService query timing⟩

def Http.App.sample : App := ⟨SearchService.sample, "today"⟩

theorem Http.ofSettings_appSample :
    ofSettings (Store.sample.reads id) ⟨1, 24, 10, []⟩ = .ok App.sample.service := ofSettings_sample

theorem lenient_request_is_answered_with_envelope :
    ofSettings (Store.sample.reads id) ⟨1, 24, 10, []⟩ = .ok App.sample.service ∧
      Route.ofPath "/api/search" = some .search ∧
      Accepts "search=creeper&sort=sideways&page=-1&x=1&x=%FF" .search ∧
      AsksInRange App.sample.service.settings "search=creeper&sort=sideways&page=-1&x=1&x=%FF" .search ∧
      IsEnvelope (respond App.sample ⟨"GET", "/api/search", "search=creeper&sort=sideways&page=-1&x=1&x=%FF"⟩) ∧
      (respond App.sample ⟨"GET", "/api/search", "search=creeper&sort=sideways&page=-1&x=1&x=%FF"⟩).status =
        200 := by
  have hAccepts : Accepts "search=creeper&sort=sideways&page=-1&x=1&x=%FF" .search := by
    rw [Accepts]
    decide +kernel
  have hRange :
      AsksInRange App.sample.service.settings "search=creeper&sort=sideways&page=-1&x=1&x=%FF" .search := by
    rw [AsksInRange]
    decide +kernel
  obtain ⟨hEnvelope, hLenient⟩ :=
    accepted_requests_are_answered_with_envelopes ofSettings_appSample ofPath_search hAccepts .inOrder
  exact ⟨ofSettings_appSample, ofPath_search, hAccepts, hRange, hEnvelope hRange,
    (hLenient _ holds_sample).search hAccepts hRange (by decide +kernel) (by decide +kernel)⟩

/-- A query string with a query that has more words than the store takes. -/
def Http.crowdedString : String := "search=" ++ crowdedQuery

theorem Http.knownPairs_crowdedString : knownPairs searchParameters crowdedString = [("search", crowdedQuery)] := by
  have hChars : crowdedString.toList = "search=".toList ++ crowdedChars := by
    simp only [crowdedString, crowdedQuery, String.toList_append, String.toList_ofList]
  have hSplit : ("search=".toList ++ crowdedChars).splitOn '&' = ["search=".toList ++ crowdedChars] := by
    decide +kernel
  have hCut : Text.cutAt '=' ("search=".toList ++ crowdedChars) = ("search".toList, some crowdedChars) := by
    decide +kernel
  have hName : Text.formDecode "search".toList = "search".toList := by decide +kernel
  have hValue : Text.formDecode crowdedChars = crowdedChars := by decide +kernel
  have hPairs : Text.formPairs crowdedString.toList = [("search", crowdedQuery)] := by
    rw [Text.formPairs, hChars, hSplit, List.filter_cons_of_pos rfl, List.filter_nil, List.map_singleton]
    simp only [hCut, hName, Option.getD_some, hValue, String.ofList_toList, crowdedQuery]
  rw [knownPairs, hPairs]
  rfl

theorem Http.accepts_crowdedString : Accepts crowdedString .search := by
  rw [Accepts, knownPairs_crowdedString]
  simp

theorem Http.asked_crowdedString : asked searchParameters crowdedString = ⟨crowdedQuery, .newest, none, 1⟩ := by
  rw [asked, knownPairs_crowdedString]
  rfl

theorem Http.status_crowdedString : (respond App.sample ⟨"GET", "/api/search", crowdedString⟩).status = 503 := by
  have hSearch : App.sample.service.search ⟨crowdedQuery, .newest, none, 1⟩ = .error tooDeep :=
    search_crowdedQuery .newest none 1
  rw [respond_of_route ofPath_search, get_search accepts_crowdedString, asked_crowdedString, hSearch]
  rfl

/-- A search with too many words gets no answer from a store that can be read, and an id that is no text is
refused in front of the operations, without an envelope. -/
theorem crowded_search_is_not_answered :
    Store.sample.Reachable ∧ Store.sample.Holds sampleCatalog ∧
      ofSettings (Store.sample.reads id) ⟨1, 24, 10, []⟩ = .ok App.sample.service ∧
      Accepts crowdedString .search ∧ AsksInRange App.sample.service.settings crowdedString .search ∧
      (Query.parse (asked searchParameters crowdedString).query).compiles = true ∧
      (respond App.sample ⟨"GET", "/api/search", crowdedString⟩).status = 503 ∧
      Route.ofPath "/api/videos/%FF" = some (.video "%FF".toList) ∧
      ¬ IsEnvelope (respond App.sample (.ofTarget "GET" "/api/videos/%FF")) := by
  have hRange : AsksInRange App.sample.service.settings crowdedString .search := by
    rw [AsksInRange, asked_crowdedString]
    decide
  have hCompiles : (Query.parse (asked searchParameters crowdedString).query).compiles = true := by
    rw [asked_crowdedString]
    exact compiles_crowdedQuery
  have hRoute : Route.ofPath "/api/videos/%FF" = some (.video "%FF".toList) := by decide +kernel
  refine ⟨reachable_sample, holds_sample, ofSettings_appSample, accepts_crowdedString, hRange, hCompiles,
    status_crowdedString, hRoute, ?_⟩
  have hRequest : Request.ofTarget "GET" "/api/videos/%FF" = ⟨"GET", "/api/videos/%FF", ""⟩ := by decide +kernel
  have hDecode : Text.percentDecodeText "%FF".toList = .error (0, .invalid 1) := by decide +kernel
  rw [hRequest, respond_of_route hRoute, Http.get, videoResponse, hDecode]
  exact not_isEnvelope_refuse _ _

end QuoteSearch
