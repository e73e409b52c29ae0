import QuoteSearch.Proofs.Date
import QuoteSearch.Proofs.Page
import QuoteSearch.Proofs.Store.Read

/-! # Results and the calendar

Results are sorted by their written dates. They are in the order of the calendar as far as the
written forms of their years are in the order of the years: always from the year 0 to the year 9999,
but a year beyond that has a sign, and then earlier and later dates may change places.
-/

namespace QuoteSearch

open Std

/-- With the newest first no earlier date comes before a later one, and with the oldest first no
later date before an earlier one. -/
def InCalendarOrder (sort : SortOrder) (videos : List Video) : Prop :=
  videos.Pairwise fun a b => sort.orient (Date.order a.uploadDate b.uploadDate) ≠ .gt

instance (sort : SortOrder) (videos : List Video) : Decidable (InCalendarOrder sort videos) :=
  inferInstanceAs (Decidable (videos.Pairwise _))

/-- How videos that are sorted by the bytes of their written dates stand in the calendar. -/
structure FollowsCalendar (sort : SortOrder) (videos : List Video) : Prop where
  written : videos.Pairwise fun a b =>
    sort.orient (compare (Text.bytes a.uploadDate.text) (Text.bytes b.uploadDate.text)) ≠ .gt
  inOrder_iff : InCalendarOrder sort videos ↔
    videos.Pairwise fun a b => Date.YearsAgree a.uploadDate.year b.uploadDate.year
  ordinary : (∀ v ∈ videos, 0 ≤ v.uploadDate.year ∧ v.uploadDate.year ≤ 9999) →
    InCalendarOrder sort videos

/-- Of two dates in the order of their written forms, both orders agree exactly if the dates are in
the order of the calendar too. -/
theorem Date.orient_order_ne_gt_iff {sort : SortOrder} {a b : Date}
    (h : sort.orient (compare a.text b.text) ≠ .gt) :
    sort.orient (Date.order a b) ≠ .gt ↔ Date.YearsAgree a.year b.year := by
  have hEq : compare a.text b.text = .eq ↔ Date.order a b = .eq := by
    rw [LawfulEqCmp.compare_eq_iff_eq, Date.text_inj, Date.order_eq_eq_iff]
  rw [← Date.compare_text_eq_order_iff]
  generalize compare a.text b.text = written at h hEq ⊢
  generalize Date.order a b = calendar at hEq ⊢
  cases sort <;> cases written <;> cases calendar <;> simp_all [SortOrder.orient]

theorem followsCalendar_of_sorted {sort : SortOrder} {videos : List Video}
    (h : videos.Pairwise fun a b => (Video.order sort a b).isLE = true) : FollowsCalendar sort videos := by
  have hText : videos.Pairwise fun a b => sort.orient (compare a.uploadDate.text b.uploadDate.text) ≠ .gt :=
    h.imp fun hOrder => Ordering.ne_gt_iff_isLE.mpr (Ordering.isLE_left_of_isLE_then hOrder)
  have hCalendar : InCalendarOrder sort videos ↔
      videos.Pairwise fun a b => Date.YearsAgree a.uploadDate.year b.uploadDate.year := by
    constructor
    · intro hOrder
      exact (hText.and hOrder).imp fun hBoth => (Date.orient_order_ne_gt_iff hBoth.1).mp hBoth.2
    · intro hAgree
      exact (hText.and hAgree).imp fun hBoth => (Date.orient_order_ne_gt_iff hBoth.1).mpr hBoth.2
  refine ⟨hText.imp fun hWritten => ?_, hCalendar, fun hOrdinary => hCalendar.mpr ?_⟩
  · rwa [Text.compare_bytes]
  · exact List.pairwise_of_forall_mem_list fun a ha b hb =>
      Date.yearsAgree_of_ordinary (hOrdinary a ha) (hOrdinary b hb)

variable {c : Catalog} {filters : List Filter} {sort : SortOrder} {videos : List Video}

theorem Catalog.sorted_of_listVideos_eq_ok (h : c.listVideos filters sort = .ok videos) :
    videos.Pairwise fun a b => (Video.order sort a b).isLE = true := by
  obtain ⟨kept, -, rfl⟩ := exists_of_map_eq_ok h
  exact pairwise_isLE_mergeSort kept

theorem Catalog.sorted_of_listQuotes_eq_ok {rows : List QuoteRow} (h : c.listQuotes filters sort = .ok rows) :
    (rows.map QuoteRow.video).Pairwise fun a b => (Video.order sort a b).isLE = true := by
  obtain ⟨kept, -, rfl⟩ := exists_of_map_eq_ok h
  exact List.pairwise_map.mpr ((pairwise_isLE_mergeSort kept).imp QuoteRow.video_order_isLE)

/-- Whatever is listed is sorted by the bytes of the written dates, and stands in the order of the
calendar exactly as far as the years of what is listed agree with their written forms. -/
theorem results_follow_calendar (s : Store) (draw : List QuoteRow → List QuoteRow) (filters : List Filter)
    (sort : SortOrder) (page : Page) :
    (∀ videos, (s.reads draw).listVideos filters sort = .ok videos → FollowsCalendar sort videos) ∧
      (∀ videos, (s.reads draw).listVideosPage filters sort page = .ok videos → FollowsCalendar sort videos) ∧
      ∀ rows, (s.reads draw).listQuotes filters sort page = .ok rows →
        FollowsCalendar sort (rows.map QuoteRow.video) := by
  refine ⟨fun videos hRead => ?_, fun videos hRead => ?_, fun rows hRead => ?_⟩
  · obtain ⟨c, -, hList⟩ := Store.read_eq_ok hRead
    exact followsCalendar_of_sorted (Catalog.sorted_of_listVideos_eq_ok hList)
  · obtain ⟨c, -, hPage⟩ := Store.read_eq_ok hRead
    obtain ⟨all, hList, rfl⟩ := exists_of_map_eq_ok hPage
    exact followsCalendar_of_sorted ((Catalog.sorted_of_listVideos_eq_ok hList).sublist (page.slice_sublist all))
  · obtain ⟨c, -, hPage⟩ := Store.read_eq_ok hRead
    obtain ⟨all, hList, rfl⟩ := exists_of_map_eq_ok hPage
    exact followsCalendar_of_sorted
      ((Catalog.sorted_of_listQuotes_eq_ok hList).sublist ((page.slice_sublist all).map QuoteRow.video))

theorem sample_results_follow_calendar :
    ∃ videos page rows,
      (Store.sample.reads id).listVideos [.contentWord "creeper"] .oldest = .ok videos ∧
      (Store.sample.reads id).listVideosPage [.contentWord "creeper"] .oldest ⟨1, 24⟩ = .ok page ∧
      (Store.sample.reads id).listQuotes [.contentWord "creeper"] .oldest ⟨1, 24⟩ = .ok rows ∧
      FollowsCalendar .oldest videos ∧ FollowsCalendar .oldest page ∧
      FollowsCalendar .oldest (rows.map QuoteRow.video) := by
  have hCompiles : ∀ f ∈ [Filter.contentWord "creeper"], f.compiles = true := by decide +kernel
  have hOnVideos : (Nesting.ofVideos [.contentWord "creeper"]).Fits := ⟨by decide, by decide⟩
  have hOnQuotes : (Nesting.ofQuotes [.contentWord "creeper"]).Fits := ⟨by decide, by decide⟩
  have hVideos := Store.holds_sample.listVideos_eq_of_fits id hOnVideos hCompiles .oldest
  have hPage := Store.holds_sample.listVideosPage_eq id hOnVideos hCompiles .oldest ⟨1, 24⟩
  have hRows := Store.holds_sample.listQuotes_eq_of_fits id hOnQuotes hCompiles .oldest ⟨1, 24⟩
  obtain ⟨ofVideos, ofPage, ofRows⟩ :=
    results_follow_calendar Store.sample id [.contentWord "creeper"] .oldest ⟨1, 24⟩
  exact ⟨_, _, _, hVideos, hPage, hRows, ofVideos _ hVideos, ofPage _ hPage, ofRows _ hRows⟩

namespace Store

/-- A video of our time and one that is far in the future. -/
def distantVideos : List Video :=
  [⟨"hardcore001", "Minecraft Hardcore", "", ⟨2024, 3, 5, by decide⟩⟩,
    ⟨"distant0001", "Minecraft Forever", "", ⟨10000, 1, 1, by decide⟩⟩]

def distantSample : Store :=
  run ⟨⟨.memory, false, none⟩, true, none⟩ [.init, .upsertVideos distantVideos]

theorem holds_distantSample : distantSample.Holds ⟨distantVideos, [], 0⟩ := ⟨rfl, rfl⟩

/-- With the newest first the video with the later date comes last. -/
theorem distant_videos_out_of_order :
    distantSample.Reachable ∧ (distantSample.reads id).listVideos [] .newest = .ok distantVideos ∧
      ¬ InCalendarOrder .newest distantVideos := by
  have hSorted : sortVideos .newest distantVideos = distantVideos :=
    List.mergeSort_of_pairwise (by decide +kernel)
  refine ⟨⟨_, _, ⟨rfl, rfl⟩, rfl⟩, ?_, by decide +kernel⟩
  have hFits : (Nesting.ofVideos []).Fits := ⟨Nat.zero_le _, Nat.zero_le _⟩
  rw [holds_distantSample.listVideos_eq_of_fits id hFits (List.forall_mem_nil _)]
  exact congrArg Except.ok hSorted

end Store

end QuoteSearch
