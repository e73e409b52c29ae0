import QuoteSearch.Proofs.Catalog.WellFormed

/-! # What is found in a well-formed catalogue

The same filters are put to the videos and, flat, to the quotes with their videos. In a
well-formed catalogue both results are strictly sorted, and the videos of the rows, with
repetitions dropped, are the found videos that own a row. An id finds its video with the whole
transcript.
-/

namespace QuoteSearch.Catalog

open Std

variable {c : Catalog} {filters : List Filter} {sort : SortOrder}

theorem WellFormed.foundVideos_pairwise_lt (h : c.WellFormed) (filters : List Filter) (sort : SortOrder) :
    (c.foundVideos filters sort).Pairwise fun a b => Video.order sort a b = .lt :=
  sortVideos_pairwise_lt sort (h.ids.sublist (List.filter_sublist.map Video.id))

theorem WellFormed.foundRows_pairwise_lt (h : c.WellFormed) (filters : List Filter) (sort : SortOrder) :
    (c.foundRows filters sort).Pairwise fun a b => QuoteRow.order sort a b = .lt :=
  sortRows_pairwise_lt sort (h.nodup_rowIds.sublist (List.filter_sublist.map _))

theorem WellFormed.nodup_foundRowIds (h : c.WellFormed) (filters : List Filter) (sort : SortOrder) :
    ((c.foundRows filters sort).map fun row => row.quote.id).Nodup := by
  rw [foundRows, ((perm_sortRows sort _).map _).nodup_iff]
  exact h.nodup_rowIds.sublist (List.filter_sublist.map _)

theorem WellFormed.mem_foundRows_iff (h : c.WellFormed) {row : QuoteRow} :
    row ∈ c.foundRows filters sort ↔ row.quote ∈ c.quotes ∧
      (row.video ∈ c.videos ∧ row.video.id = row.quote.videoId) ∧
      ∀ f ∈ filters, f.acceptsRow row = true := by
  rw [mem_foundRows, findVideo_eq_some_iff h.ids]

theorem WellFormed.map_quote_foundRows_subperm (h : c.WellFormed) (filters : List Filter) (sort : SortOrder) :
    ((c.foundRows filters sort).map QuoteRow.quote).Subperm c.quotes := by
  refine ⟨_, ((perm_sortRows sort _).map QuoteRow.quote).symm, ?_⟩
  rw [← h.map_quote_rows]
  exact List.filter_sublist.map QuoteRow.quote

theorem video_mem_of_mem_foundRows {row : QuoteRow} (hRow : row ∈ c.foundRows filters sort) :
    row.video ∈ c.videos ∧ row.quote.videoId = row.video.id := by
  obtain ⟨-, hFind, -⟩ := mem_foundRows.mp hRow
  refine ⟨List.mem_of_find?_eq_some hFind, ?_⟩
  have hId := List.find?_some hFind
  exact (beq_iff_eq.mp hId).symm

theorem video_mem_foundVideos {row : QuoteRow} (hRow : row ∈ c.foundRows filters sort) :
    row.video ∈ c.foundVideos filters sort := by
  obtain ⟨hVideo, hId⟩ := video_mem_of_mem_foundRows hRow
  obtain ⟨hQuote, -, hAccepts⟩ := mem_foundRows.mp hRow
  rw [mem_foundVideos, accepts_iff]
  -- The one quote that is asked for is the quote of the row.
  refine ⟨hVideo, fun f hf => Filter.acceptsVideo_of_acceptsRow (hAccepts f hf), fun _ => ?_⟩
  exact ⟨row.quote, hQuote, hId, hAccepts⟩

theorem WellFormed.exists_row_of_mem_foundVideos (h : c.WellFormed) {term : String}
    (hTerm : Filter.contentWord term ∈ filters) {v : Video} (hv : v ∈ c.foundVideos filters sort) :
    ∃ row ∈ c.foundRows filters sort, row.video = v := by
  rw [mem_foundVideos, accepts_iff] at hv
  obtain ⟨hVideo, -, hQuotes⟩ := hv
  obtain ⟨q, hq, hId, hAccepts⟩ := hQuotes ⟨term, hTerm⟩
  refine ⟨⟨v, q⟩, mem_foundRows.mpr ⟨hq, ?_, hAccepts⟩, rfl⟩
  exact (findVideo_eq_some_iff h.ids).mpr ⟨hVideo, hId.symm⟩

theorem WellFormed.destutter_map_video (h : c.WellFormed) (filters : List Filter) (sort : SortOrder) :
    ((c.foundRows filters sort).map QuoteRow.video).destutter (· ≠ ·) =
      (c.foundVideos filters sort).filter fun v =>
        decide (∃ row ∈ c.foundRows filters sort, row.video = v) := by
  have hSorted : ((c.foundRows filters sort).map QuoteRow.video).Pairwise
      fun a b => (Video.order sort a b).isLE = true := by
    refine List.pairwise_map.mpr ((pairwise_isLE_mergeSort _).imp ?_)
    intro a b hab
    exact QuoteRow.video_order_isLE hab
  have hVideo : ∀ v ∈ (c.foundRows filters sort).map QuoteRow.video, v ∈ c.videos := by
    intro v hv
    obtain ⟨row, hRow, rfl⟩ := List.mem_map.mp hv
    exact (video_mem_of_mem_foundRows hRow).1
  refine destutter_eq_of_pairwise_lt hSorted ?_
    ((h.foundVideos_pairwise_lt filters sort).sublist List.filter_sublist) ?_
  · intro a ha b hb hab
    exact List.inj_on_of_nodup_map h.ids (hVideo a ha) (hVideo b hb) (Video.id_eq_of_order_eq hab)
  · intro v
    rw [List.mem_map, List.mem_filter, decide_eq_true_eq]
    constructor
    · rintro ⟨row, hRow, rfl⟩
      exact ⟨video_mem_foundVideos hRow, row, hRow, rfl⟩
    · exact fun hv => hv.2

theorem WellFormed.transcript_pairwise_lt (h : c.WellFormed) (videoId : String) :
    (c.transcript videoId).Pairwise fun a b => Quote.order a b = .lt := by
  apply sortQuotes_pairwise_lt
  exact h.nodup_quoteIds.sublist (List.filter_sublist.map Quote.id)

theorem accepts_videoId_iff {id : String} {v : Video} : c.accepts [.videoId id] v = true ↔ v.id = id := by
  rw [accepts_iff]
  simp [Filter.acceptsVideo]

theorem WellFormed.mem_foundRows_videoId_iff (h : c.WellFormed) {id : String} {row : QuoteRow} :
    row ∈ c.foundRows [.videoId id] sort ↔ row.video ∈ c.videos ∧ row.video.id = id ∧
      row.quote ∈ c.transcript id := by
  rw [h.mem_foundRows_iff, mem_transcript]
  simp only [List.forall_mem_singleton, Filter.acceptsRow, Filter.acceptsVideo, beq_iff_eq]
  constructor
  · rintro ⟨hQuote, ⟨hVideo, hOwner⟩, rfl⟩
    exact ⟨hVideo, rfl, hQuote, hOwner.symm⟩
  · rintro ⟨hVideo, rfl, hQuote, hOwner⟩
    exact ⟨hQuote, ⟨hVideo, hOwner.symm⟩, rfl⟩

/-- An id finds its video only. -/
theorem WellFormed.foundVideos_videoId (h : c.WellFormed) {v : Video} (hv : v ∈ c.videos) (sort : SortOrder) :
    c.foundVideos [.videoId v.id] sort = [v] := by
  apply eq_of_pairwise_lt (h.foundVideos_pairwise_lt _ sort) (List.pairwise_singleton _ v)
  intro w
  rw [mem_foundVideos, accepts_videoId_iff, List.mem_singleton]
  constructor
  · rintro ⟨hw, hId⟩
    exact List.inj_on_of_nodup_map h.ids hw hv hId
  · rintro rfl
    exact ⟨hv, rfl⟩

/-- The rows of one video are ordered like its transcript, as they are tied up to the quotes. -/
theorem WellFormed.foundRows_videoId (h : c.WellFormed) {v : Video} (hv : v ∈ c.videos) (sort : SortOrder) :
    c.foundRows [.videoId v.id] sort = (c.transcript v.id).map (QuoteRow.mk v) := by
  apply eq_of_pairwise_lt (h.foundRows_pairwise_lt _ sort)
  · apply List.pairwise_map.mpr
    apply (h.transcript_pairwise_lt v.id).imp
    intro a b hab
    have hSame : Video.order sort v v = .eq := ReflCmp.compare_self
    rw [QuoteRow.order, hSame, Ordering.eq_then, hab]
  · intro row
    rw [h.mem_foundRows_videoId_iff, List.mem_map]
    constructor
    · rintro ⟨hVideo, hId, hQuote⟩
      obtain rfl : row.video = v := List.inj_on_of_nodup_map h.ids hVideo hv hId
      exact ⟨row.quote, hQuote, rfl⟩
    · rintro ⟨q, hq, rfl⟩
      exact ⟨hv, rfl, hq⟩

theorem foundVideos_of_unknown {id : String} (hUnknown : id ∉ c.videos.map Video.id) :
    c.foundVideos [.videoId id] sort = [] := by
  apply List.eq_nil_iff_forall_not_mem.mpr
  intro v hv
  rw [mem_foundVideos, accepts_videoId_iff] at hv
  exact hUnknown (List.mem_map.mpr ⟨v, hv⟩)

theorem WellFormed.foundRows_of_unknown (h : c.WellFormed) {id : String}
    (hUnknown : id ∉ c.videos.map Video.id) : c.foundRows [.videoId id] sort = [] := by
  apply List.eq_nil_iff_forall_not_mem.mpr
  intro row hRow
  obtain ⟨hVideo, hId, -⟩ := h.mem_foundRows_videoId_iff.mp hRow
  exact hUnknown (List.mem_map.mpr ⟨row.video, hVideo, hId⟩)

end QuoteSearch.Catalog
