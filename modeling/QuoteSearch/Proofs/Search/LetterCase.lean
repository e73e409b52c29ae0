import QuoteSearch.Proofs.Pattern.LetterCase
import QuoteSearch.Proofs.Query.LetterCase
import QuoteSearch.Proofs.Search.Answer

/-! # Searching in another letter case

Titles and quotes are searched without regard to letter case, and only ids are compared as they
are. So a search that asks for no id finds, counts and highlights the same in whatever case it is
typed, and it fails in the same way.
-/

namespace QuoteSearch

namespace Filter

/-- The filter with small ASCII letters. -/
def lower : Filter → Filter
  | .videoId id => .videoId id.toLower
  | .titleWord term => .titleWord term.toLower
  | .contentWord term => .contentWord term.toLower

theorem kind_lower (f : Filter) : f.lower.kind = f.kind := by
  cases f <;> rfl

theorem testWord_toLower (term text : String) : testWord term.toLower text = testWord term text := by
  rw [testWord, WordPattern.fits_word_toLower, WordPattern.occursIn_word_toLower, testWord]

theorem testVideo_lower (v : Video) {f : Filter} (h : f.kind ≠ .videoId) :
    f.lower.testVideo v = f.testVideo v := by
  cases f with
  | videoId id => exact absurd rfl h
  | titleWord term => exact testWord_toLower term v.title
  | contentWord term => rfl

theorem testRow_lower (row : QuoteRow) {f : Filter} (h : f.kind ≠ .videoId) :
    f.lower.testRow row = f.testRow row := by
  cases f with
  | videoId id => exact absurd rfl h
  | titleWord term => exact testWord_toLower term row.video.title
  | contentWord term => exact testWord_toLower term row.quote.content

theorem all_lower {test : Filter → Selection Bool} {filters : List Filter}
    (h : ∀ f ∈ filters, test f.lower = test f) : all test (filters.map lower) = all test filters := by
  induction filters with
  | nil => rfl
  | cons f rest ih =>
    obtain ⟨hFirst, hRest⟩ := List.forall_mem_cons.mp h
    rw [List.map_cons, all, hFirst, ih hRest, all]

theorem map_contentWord_toLower (terms : List String) :
    (terms.map String.toLower).map contentWord = (terms.map contentWord).map lower := by
  rw [List.map_map, List.map_map]
  rfl

theorem ofKind_lower (kind : FilterKind) (filters : List Filter) :
    ofKind kind (filters.map lower) = (ofKind kind filters).map lower := by
  simp only [ofKind, List.filter_map, Function.comp_def, kind_lower]

theorem touchQuotes_lower (filters : List Filter) :
    touchQuotes (filters.map lower) = touchQuotes filters := by
  simp only [touchQuotes, List.any_map, Function.comp_def, kind_lower]

end Filter

namespace Nesting

theorem ofVideos_lower (filters : List Filter) : ofVideos (filters.map Filter.lower) = ofVideos filters := by
  simp only [ofVideos, Filter.ofKind_lower, List.length_map]

theorem ofQuotes_lower (filters : List Filter) : ofQuotes (filters.map Filter.lower) = ofQuotes filters := by
  simp only [ofQuotes, List.length_map]

end Nesting

section Filters

variable {filters : List Filter} (hFilters : ∀ f ∈ filters, f.kind ≠ .videoId)

include hFilters

namespace Catalog

theorem testVideo_lower (c : Catalog) (v : Video) :
    c.testVideo (filters.map Filter.lower) v = c.testVideo filters v := by
  have hVideo : Filter.all (Filter.testVideo v) (filters.map Filter.lower) =
      Filter.all (Filter.testVideo v) filters :=
    Filter.all_lower fun f hf => Filter.testVideo_lower v (hFilters f hf)
  have hContent : ∀ row,
      Filter.all (Filter.testRow row) (Filter.ofKind .content (filters.map Filter.lower)) =
      Filter.all (Filter.testRow row) (Filter.ofKind .content filters) := by
    intro row
    rw [Filter.ofKind_lower]
    exact Filter.all_lower fun f hf => Filter.testRow_lower row (hFilters f (List.mem_of_mem_filter hf))
  simp only [testVideo, hVideo, hContent, Filter.touchQuotes_lower]

theorem listVideos_lower (c : Catalog) (sort : SortOrder) :
    c.listVideos (filters.map Filter.lower) sort = c.listVideos filters sort := by
  rw [listVideos, funext (testVideo_lower hFilters c), listVideos]

theorem selectRows_lower (c : Catalog) : c.selectRows (filters.map Filter.lower) = c.selectRows filters := by
  have hRow : ∀ row, Filter.all (Filter.testRow row) (filters.map Filter.lower) =
      Filter.all (Filter.testRow row) filters :=
    fun row => Filter.all_lower fun f hf => Filter.testRow_lower row (hFilters f hf)
  rw [selectRows, funext hRow, selectRows]

end Catalog

namespace Store

variable (s : Store) (draw : List QuoteRow → List QuoteRow)

theorem listVideos_lower (sort : SortOrder) :
    (s.reads draw).listVideos (filters.map Filter.lower) sort = (s.reads draw).listVideos filters sort := by
  simp only [reads, Nesting.ofVideos_lower, Catalog.listVideos_lower hFilters]

theorem countQuotes_lower :
    (s.reads draw).countQuotes (filters.map Filter.lower) = (s.reads draw).countQuotes filters := by
  simp only [reads, Nesting.ofQuotes_lower, Catalog.countQuotes, Catalog.selectRows_lower hFilters]

theorem listQuotes_lower (sort : SortOrder) (page : Page) :
    (s.reads draw).listQuotes (filters.map Filter.lower) sort page =
      (s.reads draw).listQuotes filters sort page := by
  simp only [reads, Nesting.ofQuotes_lower, Catalog.listQuotes, Catalog.selectRows_lower hFilters]

end Store

end Filters

namespace Query

theorem contentTerms_lower (q : Query) : q.lower.contentTerms = q.contentTerms.map String.toLower := by
  rw [contentTerms, contentTerms, lower]
  split
  · rfl
  · rfl

theorem taggedFilters_lower (q : Query) : q.lower.taggedFilters = q.taggedFilters.map Filter.lower := by
  have hId : (q.videoId.map String.toLower).toList.map Filter.videoId =
      (q.videoId.toList.map Filter.videoId).map Filter.lower := by
    cases q.videoId <;> rfl
  have hTitle : (q.title.map String.toLower).toList.map Filter.titleWord =
      (q.title.toList.map Filter.titleWord).map Filter.lower := by
    cases q.title <;> rfl
  rw [taggedFilters, contentTerms_lower, Filter.map_contentWord_toLower, lower, hId, hTitle, taggedFilters,
    List.map_append, List.map_append]

theorem videoFilters_lower (q : Query) : q.lower.videoFilters = q.videoFilters.map Filter.lower := by
  rw [videoFilters, taggedFilters_lower, videoFilters, apply_ite (List.map Filter.lower)]
  rfl

theorem quoteFilters_lower (q : Query) : q.lower.quoteFilters = q.quoteFilters.map Filter.lower := by
  rw [quoteFilters, taggedFilters_lower, contentTerms_lower, Filter.map_contentWord_toLower, quoteFilters,
    apply_ite (List.map Filter.lower)]
  rfl

variable {q : Query} (h : q.videoId = none)

include h

theorem kind_of_mem_taggedFilters : ∀ f ∈ q.taggedFilters, f.kind ≠ .videoId :=
  forall_mem_taggedFilters.mpr ⟨by simp [h], fun _ _ => nofun, fun _ _ => nofun⟩

theorem kind_of_mem_videoFilters : ∀ f ∈ q.videoFilters, f.kind ≠ .videoId := by
  rw [videoFilters]
  split
  · exact kind_of_mem_taggedFilters h
  · simp [Filter.kind]

theorem kind_of_mem_quoteFilters : ∀ f ∈ q.quoteFilters, f.kind ≠ .videoId := by
  rw [quoteFilters]
  split
  · exact kind_of_mem_taggedFilters h
  · simp [Filter.kind]

end Query

/-- The answer without the query as it was typed. -/
def SearchPage.unechoed (p : SearchPage) : SearchPage := { p with query := "" }

theorem QuoteRow.annotate_toLower (terms : List String) :
    annotate (terms.map String.toLower) = annotate terms := by
  funext row
  rw [annotate, Highlight.highlight_toLower, annotate]

namespace SearchService

/-- Searches for which the same is read, and whose terms are shown alike, have the same answer up to
the query as it was typed. -/
theorem search_unechoed_congr (service : SearchService) {typed other : String} (hTyped : Text.trim typed ≠ "")
    (hOther : Text.trim other ≠ "") {sort : SortOrder} (tab : Option Tab) (page : UInt32) (timing : Timing)
    (hVideos : service.reads.listVideos (Query.parse other).videoFilters sort =
      service.reads.listVideos (Query.parse typed).videoFilters sort)
    (hCount : service.reads.countQuotes (Query.parse other).quoteFilters =
      service.reads.countQuotes (Query.parse typed).quoteFilters)
    (hQuotes : service.reads.listQuotes (Query.parse other).quoteFilters sort =
      service.reads.listQuotes (Query.parse typed).quoteFilters sort)
    (hTerms : QuoteRow.annotate (Query.parse other).highlightTerms =
      QuoteRow.annotate (Query.parse typed).highlightTerms) :
    (service.search ⟨other, sort, tab, page⟩ timing).map SearchPage.unechoed =
      (service.search ⟨typed, sort, tab, page⟩ timing).map SearchPage.unechoed := by
  simp only [search, if_neg hTyped, if_neg hOther, Query.parse_trim, hVideos, hCount, hQuotes, shown, hTerms]
  -- The reads are the same now, and what they give is only shown with another query.
  generalize timing.found.join _ _ = found
  cases found with
  | error fault => rfl
  | ok found => rfl

theorem search_toLower {s : Store} {draw : List QuoteRow → List QuoteRow} {settings : SearchSettings}
    {service : SearchService} (hService : ofSettings (s.reads draw) settings = .ok service) {typed : String}
    (hId : (Query.parse typed).videoId = none) (sort : SortOrder) (tab : Option Tab) (page : UInt32) :
    (service.search ⟨typed.toLower, sort, tab, page⟩).map SearchPage.unechoed =
      (service.search ⟨typed, sort, tab, page⟩).map SearchPage.unechoed := by
  obtain ⟨hReads, -⟩ := ofSettings_eq_ok hService
  have hBlankIff : Text.trim typed.toLower = "" ↔ Text.trim typed = "" := by
    rw [Text.trim_toLower, Text.toLower_eq_empty_iff]
  by_cases hBlank : Text.trim typed = ""
  · rw [search, search, if_pos hBlank, if_pos (hBlankIff.mpr hBlank)]
    rfl
  · apply search_unechoed_congr service hBlank (hBlankIff.not.mpr hBlank)
    · rw [hReads, Query.parse_toLower, Query.videoFilters_lower]
      exact s.listVideos_lower (Query.kind_of_mem_videoFilters hId) draw sort
    · rw [hReads, Query.parse_toLower, Query.quoteFilters_lower]
      exact s.countQuotes_lower (Query.kind_of_mem_quoteFilters hId) draw
    · rw [hReads, Query.parse_toLower, Query.quoteFilters_lower]
      funext page
      exact s.listQuotes_lower (Query.kind_of_mem_quoteFilters hId) draw sort page
    · rw [Query.parse_toLower, Query.highlightTerms, Query.contentTerms_lower, QuoteRow.annotate_toLower]
      rfl

end SearchService

/-- Queries that differ in the case of ASCII letters only are read and answered alike. -/
theorem search_ignores_letter_case {s : Store} {draw : List QuoteRow → List QuoteRow}
    {settings : SearchSettings} {service : SearchService}
    (hService : SearchService.ofSettings (s.reads draw) settings = .ok service)
    {typed other : String} (hCase : typed.toLower = other.toLower) (hId : (Query.parse typed).videoId = none)
    (sort : SortOrder) (tab : Option Tab) (page : UInt32) :
    let found := fun query => service.search ⟨query, sort, tab, page⟩
    (Query.parse other).videoId = none ∧ (Query.parse other).isTagged = (Query.parse typed).isTagged ∧
      (Query.parse other).words.length = (Query.parse typed).words.length ∧
      (Query.parse other).title.isSome = (Query.parse typed).title.isSome ∧
      (found other).map SearchPage.unechoed = (found typed).map SearchPage.unechoed ∧
      ((∃ c, s.Holds c) → (Query.parse typed).compiles = true →
        (Query.parse typed).words.length ≤ Query.mostWords →
        Page.before ⟨SearchService.atLeastOne page, settings.quotesPerPage⟩ < 2 ^ 63 →
        ∃ answered, found typed = .ok answered) := by
  have hLower : (Query.parse other).lower = (Query.parse typed).lower := by
    rw [← Query.parse_toLower, ← hCase, Query.parse_toLower]
  simp only [Query.lower, Query.mk.injEq, hId, Option.map_none, Option.map_eq_none_iff] at hLower
  obtain ⟨-, hOther, hTitle, hWords, hTagged⟩ := hLower
  refine ⟨hOther, hTagged, ?_, ?_, ?_, ?_⟩
  · simpa using congrArg List.length hWords
  · simpa using congrArg Option.isSome hTitle
  · have hTyped := SearchService.search_toLower hService hId sort tab page
    have hAnother := SearchService.search_toLower hService hOther sort tab page
    rw [← hAnother, ← hCase, hTyped]
  · rintro ⟨c, hHolds⟩ hCompiles hMost -
    exact SearchService.exists_search_eq_ok hHolds hService hCompiles hMost

theorem sample_search_ignores_letter_case :
    let found := fun query => SearchService.sample.search ⟨query, .newest, some .quotes, 1⟩
    SearchService.ofSettings (Store.sample.reads id) ⟨1, 24, 10, []⟩ = .ok SearchService.sample ∧
      "Word: CREEPER; title: Minecraft".toLower = "wOrD: creeper; TITLE: mineCraft".toLower ∧
      (Query.parse "Word: CREEPER; title: Minecraft").videoId = none ∧
      (Query.parse "wOrD: creeper; TITLE: mineCraft").videoId = none ∧
      (found "wOrD: creeper; TITLE: mineCraft").map SearchPage.unechoed =
        (found "Word: CREEPER; title: Minecraft").map SearchPage.unechoed ∧
      ∃ answered, found "Word: CREEPER; title: Minecraft" = .ok answered := by
  have hCase : "Word: CREEPER; title: Minecraft".toLower = "wOrD: creeper; TITLE: mineCraft".toLower := by
    rw [← String.toList_inj, Text.toList_toLower, Text.toList_toLower]
    decide
  have hId : (Query.parse "Word: CREEPER; title: Minecraft").videoId = none := by decide +kernel
  obtain ⟨hOther, -, -, -, hSame, hAnswered⟩ :=
    search_ignores_letter_case SearchService.ofSettings_sample hCase hId .newest (some .quotes) 1
  exact ⟨SearchService.ofSettings_sample, hCase, hId, hOther, hSame,
    hAnswered ⟨Store.sampleCatalog, Store.holds_sample⟩ (by decide +kernel) (by decide +kernel)
      (by decide)⟩

end QuoteSearch
