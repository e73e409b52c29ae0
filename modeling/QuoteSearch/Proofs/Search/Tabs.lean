import QuoteSearch.Proofs.Catalog.Found
import QuoteSearch.Proofs.Search.Answer

/-! # The two tabs of a search

The videos and the quotes that a tagged query finds are selected and sorted apart from each other.
They show the same videos in the same order.
-/

namespace QuoteSearch

open Store

/-- The quotes, with neighbours of one video taken together, show the videos that own one of them;
with words in the query these are all the videos. -/
structure TabsAgree (c : Catalog) (query : Query) (videos : List Video) (rows : List QuoteRow) : Prop where
  collapsed : (rows.map QuoteRow.video).destutter (· ≠ ·) =
    videos.filter fun v => decide (∃ row ∈ rows, row.video = v)
  collapsedAll : query.words ≠ [] → (rows.map QuoteRow.video).destutter (· ≠ ·) = videos
  complete : query.words ≠ [] → ∀ v, v ∈ videos ↔ v ∈ c.videos ∧ query.AcceptsVideo v ∧
    ∃ q ∈ c.quotes, q.videoId = v.id ∧
      ∀ word ∈ query.words, (WordPattern.word word).occursIn q.content = true

/-- The whole lists behind both tabs, as they are read, and that they agree; a page of quotes is asked
for by its number as long as 63 bits count the quotes before it. -/
def ShowsSameVideos (s : Store) (c : Catalog) (draw : List QuoteRow → List QuoteRow) (query : Query)
    (sort : SortOrder) : Prop :=
  ∃ videos rows, (s.reads draw).listVideos query.videoFilters sort = .ok videos ∧
    c.listQuotes query.quoteFilters sort = .ok rows ∧
    (∀ page : Page, page.before < 2 ^ 63 →
      (s.reads draw).listQuotes query.quoteFilters sort page = .ok (page.slice rows)) ∧
    TabsAgree c query videos rows

theorem Catalog.WellFormed.tabsAgree {c : Catalog} (h : c.WellFormed) {query : Query}
    (hTagged : query.isTagged = true) (sort : SortOrder) :
    TabsAgree c query (c.foundVideos query.taggedFilters sort) (c.foundRows query.taggedFilters sort) := by
  have hWord : query.words ≠ [] → ∃ word, Filter.contentWord word ∈ query.taggedFilters := by
    intro hWords
    obtain ⟨word, rest, hEq⟩ := List.exists_cons_of_ne_nil hWords
    refine ⟨word, Query.contentWord_mem_taggedFilters.mpr ?_⟩
    rw [Query.contentTerms_of_isTagged hTagged, hEq]
    exact List.mem_cons_self
  have hCollapsed := h.destutter_map_video query.taggedFilters sort
  refine ⟨hCollapsed, ?_, ?_⟩
  · intro hWords
    obtain ⟨word, hMem⟩ := hWord hWords
    rw [hCollapsed, List.filter_eq_self]
    intro v hv
    exact decide_eq_true (h.exists_row_of_mem_foundVideos hMem hv)
  · intro hWords v
    rw [Catalog.mem_foundVideos, Catalog.accepts_iff, Query.taggedFilters_acceptVideo_iff,
      imp_iff_right (hWord hWords)]
    refine and_congr_right fun _ => and_congr_right fun hVideo => exists_congr fun q => ?_
    refine and_congr_right fun _ => and_congr_right fun _ => ?_
    rw [Query.taggedFilters_acceptRow_iff, and_iff_right hVideo, Query.AcceptsContent,
      Query.contentTerms_of_isTagged hTagged]

/-- Both tabs of a tagged search show the same videos. -/
theorem tagged_tabs_show_same_videos {s : Store} {c : Catalog} (hReachable : s.Reachable)
    (hHolds : s.Holds c) (draw : List QuoteRow → List QuoteRow) {typed : String}
    (hTagged : (Query.parse typed).isTagged = true) (hCompiles : (Query.parse typed).compiles = true)
    (hWords : (Query.parse typed).words.length ≤ Query.mostWords) (sort : SortOrder) :
    ShowsSameVideos s c draw (Query.parse typed) sort := by
  refine ⟨_, _, hHolds.listVideos_eq draw hCompiles hWords sort,
    c.listQuotes_eq (Query.compiles_quoteFilters hCompiles) sort,
    fun page _ => hHolds.listQuotes_eq draw hCompiles hWords sort page, ?_⟩
  rw [Query.videoFilters_of_isTagged hTagged, Query.quoteFilters_of_isTagged hTagged]
  exact (hReachable.catalog_wellFormed hHolds).tabsAgree hTagged sort

theorem sample_tabs_show_same_videos :
    Store.sample.Reachable ∧ Store.sample.Holds sampleCatalog ∧
      (Query.parse "word: creeper, a").isTagged = true ∧
      (Query.parse "word: creeper, a").compiles = true ∧
      (Query.parse "word: creeper, a").words.length ≤ Query.mostWords ∧
      ShowsSameVideos Store.sample sampleCatalog id (Query.parse "word: creeper, a") .newest := by
  have hTagged : (Query.parse "word: creeper, a").isTagged = true := by decide +kernel
  have hCompiles : (Query.parse "word: creeper, a").compiles = true := by decide +kernel
  have hWords : (Query.parse "word: creeper, a").words.length ≤ Query.mostWords := by decide +kernel
  exact ⟨reachable_sample, holds_sample, hTagged, hCompiles, hWords,
    tagged_tabs_show_same_videos reachable_sample holds_sample id hTagged hCompiles hWords .newest⟩

/-- With too many words the videos cannot be listed, though all the patterns compile. -/
theorem crowded_query_lists_no_videos :
    Store.sample.Reachable ∧ Store.sample.Holds sampleCatalog ∧
      (Query.parse SearchService.crowdedQuery).isTagged = true ∧
      (Query.parse SearchService.crowdedQuery).compiles = true ∧
      ¬ ShowsSameVideos Store.sample sampleCatalog id (Query.parse SearchService.crowdedQuery) .newest := by
  refine ⟨reachable_sample, holds_sample, SearchService.isTagged_crowdedQuery,
    SearchService.compiles_crowdedQuery, ?_⟩
  rintro ⟨videos, rows, hVideos, -⟩
  rw [holds_sample.listVideos_eq_error id SearchService.isTagged_crowdedQuery
    SearchService.mostWords_lt_crowdedQuery] at hVideos
  cases hVideos

end QuoteSearch
