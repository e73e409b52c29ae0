import QuoteSearch.Proofs.Catalog.Found
import QuoteSearch.Proofs.Date
import QuoteSearch.Proofs.Search.Answer

/-! # Listing videos

A listing holds each video that the filters accept once, sorted by the bytes of its written date and
of its id, and the pages of a listing are its slices. The pages that a user asks for with a plain
query, put together up to the first empty one, are the videos that a search for this query shows.
-/

namespace QuoteSearch

open Std Store SearchService

/-- All the videos that the filters accept, each once, in the order of a result. -/
structure ListsVideos (c : Catalog) (filters : List Filter) (sort : SortOrder) (videos : List Video) :
    Prop where
  matching : ∀ v, v ∈ videos ↔ v ∈ c.videos ∧ (∀ id, Filter.videoId id ∈ filters → v.id = id) ∧
    (∀ term, Filter.titleWord term ∈ filters → (WordPattern.word term).occursIn v.title = true) ∧
    ((∃ term, Filter.contentWord term ∈ filters) → ∃ q ∈ c.quotes, q.videoId = v.id ∧
      ∀ term, Filter.contentWord term ∈ filters → (WordPattern.word term).occursIn q.content = true)
  once : (videos.map Video.id).Nodup
  sorted : videos.Pairwise fun a b =>
    (sort.orient (compare (Text.bytes a.uploadDate.text) (Text.bytes b.uploadDate.text))).then
      (compare (Text.bytes a.id) (Text.bytes b.id)) = .lt

/-- The listings of a store in both orders and their pages; a page is asked for by its number as
long as 63 bits count the videos before it. -/
def ListsEachVideoOnce (s : Store) (c : Catalog) (draw : List QuoteRow → List QuoteRow) (filters : List Filter) :
    Prop :=
  ∃ listing : SortOrder → List Video,
    (∀ sort, (s.reads draw).listVideos filters sort = .ok (listing sort)) ∧
    (∀ sort, ListsVideos c filters sort (listing sort)) ∧
    (((listing .oldest).map Video.uploadDate).Nodup → listing .newest = (listing .oldest).reverse) ∧
    ∀ sort (page : Page), page.size ≠ 0 → page.before < 2 ^ 63 →
      (s.reads draw).listVideosPage filters sort page =
        .ok (((listing sort).drop ((page.number.toNat - 1) * page.size.toNat)).take page.size.toNat)

/-- The pages of the videos with a word in their titles, up to the first empty one, are all of the
listing; there is an empty page unless every page that can be asked for is full. The videos of the
listing and one page more are counted in 63 bits for that. -/
structure PagesThrough (service : SearchService) (word : String) (sort : SortOrder) (videos : List Video) :
    Prop where
  upToEmpty : ∀ before < Page.largestNumber, ∀ pages last,
    (List.range' 1 before).mapM (fun i => service.listVideos word sort (UInt32.ofNat i)) = .ok pages →
    service.listVideos word sort (UInt32.ofNat (before + 1)) = .ok last → last.videos = [] →
      pages.flatMap VideoPage.videos = videos
  reachesEmpty : videos.length ≤ (Page.largestNumber - 1) * service.settings.videosPerPage.toNat →
    videos.length + service.settings.videosPerPage.toNat ≤ 2 ^ 63 →
    ∃ before < Page.largestNumber, ∃ pages last,
      (List.range' 1 before).mapM (fun i => service.listVideos word sort (UInt32.ofNat i)) = .ok pages ∧
      (∀ page ∈ pages, page.videos ≠ []) ∧
      service.listVideos word sort (UInt32.ofNat (before + 1)) = .ok last ∧ last.videos = []

/-- A plain query lists on its pages what a search for it shows; a blank one lists the catalogue. -/
def ListsWhatSearchShows (service : SearchService) (c : Catalog) (typed : String) (sort : SortOrder) : Prop :=
  ∃ videos, PagesThrough service typed sort videos ∧
    (∀ tab number, Page.before ⟨atLeastOne number, service.settings.quotesPerPage⟩ < 2 ^ 63 →
      (service.search ⟨typed, sort, tab, number⟩).map SearchPage.videos = .ok videos) ∧
    (Text.trim typed = "" → ListsVideos c [] sort videos)

variable {c : Catalog} {filters : List Filter} {sort : SortOrder}

theorem Catalog.WellFormed.listsVideos (h : c.WellFormed) (filters : List Filter) (sort : SortOrder) :
    ListsVideos c filters sort (c.foundVideos filters sort) where
  matching v := by
    rw [Catalog.mem_foundVideos, Catalog.accepts_iff, Filter.forall_acceptsVideo_iff, and_assoc]
    refine and_congr_right fun _ => and_congr_right fun hId => and_congr_right fun hTitle => ?_
    refine imp_congr_right fun _ => exists_congr fun q => and_congr_right fun _ => and_congr_right fun _ => ?_
    rw [Filter.forall_acceptsRow_iff, and_iff_right (Filter.forall_acceptsVideo_iff.mpr ⟨hId, hTitle⟩)]
  once := by
    rw [Catalog.foundVideos, ((perm_sortVideos sort _).map _).nodup_iff]
    exact h.ids.sublist (List.filter_sublist.map _)
  sorted := by
    simp only [Text.compare_bytes]
    exact h.foundVideos_pairwise_lt filters sort

/-- Between different dates the direction decides, and it turns every comparison round. -/
theorem Video.order_newest_of_oldest {a b : Video} (hDates : a.uploadDate ≠ b.uploadDate)
    (h : order .oldest a b = .lt) : order .newest b a = .lt := by
  have hText : compare a.uploadDate.text b.uploadDate.text ≠ .eq := fun hEq =>
    hDates (Date.text_inj.mp (LawfulEqOrd.eq_of_compare hEq))
  have hLess : compare a.uploadDate.text b.uploadDate.text = .lt := by
    rwa [order, SortOrder.orient, Date.then_of_ne_eq hText] at h
  rw [order, SortOrder.orient, OrientedCmp.gt_of_lt hLess]
  rfl

theorem Catalog.WellFormed.foundVideos_newest (h : c.WellFormed)
    (hDates : ((c.foundVideos filters .oldest).map Video.uploadDate).Nodup) :
    c.foundVideos filters .newest = (c.foundVideos filters .oldest).reverse := by
  have hReversed : (c.foundVideos filters .oldest).reverse.Pairwise fun a b => Video.order .newest a b = .lt := by
    rw [List.pairwise_reverse]
    exact ((h.foundVideos_pairwise_lt filters .oldest).and (List.pairwise_map.mp hDates)).imp fun hBoth =>
      Video.order_newest_of_oldest hBoth.2 hBoth.1
  refine eq_of_pairwise_lt (h.foundVideos_pairwise_lt filters .newest) hReversed fun v => ?_
  rw [List.mem_reverse, Catalog.mem_foundVideos, Catalog.mem_foundVideos]

theorem listsEachVideoOnce {s : Store} (hWellFormed : c.WellFormed) (hHolds : s.Holds c)
    (draw : List QuoteRow → List QuoteRow) (hFits : (Nesting.ofVideos filters).Fits)
    (hCompiles : ∀ f ∈ filters, f.compiles = true) : ListsEachVideoOnce s c draw filters := by
  refine ⟨c.foundVideos filters, hHolds.listVideos_eq_of_fits draw hFits hCompiles,
    hWellFormed.listsVideos filters, hWellFormed.foundVideos_newest, fun sort page _ hBefore => ?_⟩
  rw [hHolds.listVideosPage_eq draw hFits hCompiles sort page, Page.slice_eq hBefore, Page.before]

section Pages

variable {s : Store} {draw : List QuoteRow → List QuoteRow} {service : SearchService} {word : String}

theorem listVideos_ofNat (hHolds : s.Holds c)
    (hService : ofSettings (s.reads draw) service.settings = .ok service)
    (hCompiles : ∀ f ∈ titleFilters word, f.compiles = true) {i : Nat} (hPos : 0 < i)
    (hLargest : i ≤ Page.largestNumber) :
    service.listVideos word sort (UInt32.ofNat i) =
      .ok ⟨Page.slice ⟨UInt32.ofNat i, service.settings.videosPerPage⟩ (c.foundVideos (titleFilters word) sort),
        UInt32.ofNat i⟩ := by
  rw [listVideos_eq_page hHolds hService hCompiles, atLeastOne_ofNat hPos hLargest]

theorem mapM_listVideos (hHolds : s.Holds c)
    (hService : ofSettings (s.reads draw) service.settings = .ok service)
    (hCompiles : ∀ f ∈ titleFilters word, f.compiles = true) {before : Nat} (hBefore : before ≤ Page.largestNumber) :
    (List.range' 1 before).mapM (fun i => service.listVideos word sort (UInt32.ofNat i)) =
      .ok ((List.range' 1 before).map fun i =>
        ⟨Page.slice ⟨UInt32.ofNat i, service.settings.videosPerPage⟩ (c.foundVideos (titleFilters word) sort),
          UInt32.ofNat i⟩) := by
  simp only [listVideos_eq_page hHolds hService hCompiles]
  refine List.mapM_pure.trans (congrArg Except.ok (List.map_congr_left fun i hi => ?_))
  obtain ⟨hPos, hLast⟩ := List.mem_range'_1.mp hi
  have hLargest : i ≤ Page.largestNumber := by omega
  rw [atLeastOne_ofNat hPos hLargest]

theorem pagesThrough (hHolds : s.Holds c) (hService : ofSettings (s.reads draw) service.settings = .ok service)
    (hCompiles : ∀ f ∈ titleFilters word, f.compiles = true) (sort : SortOrder) :
    PagesThrough service word sort (c.foundVideos (titleFilters word) sort) := by
  have hSize := service.videosPerPage_ne_zero
  refine ⟨fun before hBefore pages last hPages hLast hEmpty => ?_, fun hFew hRoom => ?_⟩
  · rw [mapM_listVideos hHolds hService hCompiles hBefore.le] at hPages
    rw [listVideos_ofNat hHolds hService hCompiles (Nat.succ_pos before) hBefore] at hLast
    cases hPages
    cases hLast
    rw [List.flatMap_map]
    exact Page.flatMap_slice_of_slice_eq_nil hSize hBefore hEmpty
  · -- The pages that hold something are the ones before the first empty page.
    generalize hVideos : c.foundVideos (titleFilters word) sort = videos at hFew hRoom
    let first : Page := ⟨1, service.settings.videosPerPage⟩
    have hFilled : ∀ {number}, number < first.filled videos.length ↔
        number * service.settings.videosPerPage.toNat < videos.length := Page.lt_filled_iff hSize
    have hBefore : first.filled videos.length < Page.largestNumber := by
      have hLast := mt hFilled.mp (Nat.not_lt.mpr hFew)
      have hLargest : 0 < Page.largestNumber := by decide
      omega
    have hCounted : Page.before ⟨UInt32.ofNat (first.filled videos.length + 1), service.settings.videosPerPage⟩ <
        2 ^ 63 := by
      rw [Page.before_ofNat_succ hBefore]
      exact (Page.filled_mul_lt hSize _).trans_le hRoom
    refine ⟨_, hBefore, _, _, mapM_listVideos hHolds hService hCompiles hBefore.le, ?_,
      listVideos_ofNat hHolds hService hCompiles (Nat.succ_pos _) hBefore, ?_⟩
    · intro page hMem hEmpty
      obtain ⟨i, hi, rfl⟩ := List.mem_map.mp hMem
      obtain ⟨before, rfl⟩ := Nat.exists_eq_add_of_le (List.mem_range'_1.mp hi).1
      have hNumber : before < first.filled videos.length := by
        have := (List.mem_range'_1.mp hi).2
        omega
      rw [Nat.add_comm, hVideos] at hEmpty
      have hLength := Page.length_le_of_slice_eq_nil hSize hEmpty
      rw [Page.before_ofNat_succ (hNumber.trans hBefore)] at hLength
      exact Nat.not_lt.mpr hLength (hFilled.mp hNumber)
    · rw [hVideos, Page.slice_eq_nil_iff hSize hCounted, Page.before_ofNat_succ hBefore]
      exact Nat.not_lt.mp fun hMore => Nat.lt_irrefl _ (hFilled.mpr hMore)

theorem titleFilters_of_not_isTagged {typed : String} (hPlain : (Query.parse typed).isTagged = false)
    (hTyped : Text.trim typed ≠ "") : titleFilters typed = (Query.parse typed).videoFilters := by
  rw [titleFilters, if_neg hTyped, Query.videoFilters, hPlain]
  rfl

theorem isTaken_of_not_isTagged {typed : String} (hPlain : (Query.parse typed).isTagged = false)
    (hTyped : Text.trim typed ≠ "") (hCompiles : ∀ f ∈ titleFilters typed, f.compiles = true) : IsTaken typed := by
  obtain ⟨-, -, hWords⟩ := Query.plain_of_not_isTagged hPlain
  refine ⟨hTyped, ?_, ?_⟩
  · rw [titleFilters_of_not_isTagged hPlain hTyped] at hCompiles
    have hFits : (WordPattern.word (Query.parse typed).raw).fits = true := by
      simpa [Query.videoFilters, hPlain, Filter.compiles] using hCompiles
    simp [Query.compiles, Query.videoFilters, Query.quoteFilters, Query.contentTerms, hPlain, Filter.compiles, hFits]
  · rw [hWords]
    exact Nat.zero_le _

/-- A search for a plain query shows all the videos that have it in their titles. -/
theorem search_map_videos (hHolds : s.Holds c)
    (hService : ofSettings (s.reads draw) service.settings = .ok service) {typed : String}
    (hPlain : (Query.parse typed).isTagged = false) (hCompiles : ∀ f ∈ titleFilters typed, f.compiles = true)
    (sort : SortOrder) (tab : Option Tab) (number : UInt32) :
    (service.search ⟨typed, sort, tab, number⟩).map SearchPage.videos =
      .ok (c.foundVideos (titleFilters typed) sort) := by
  by_cases hTyped : Text.trim typed = ""
  · have hNone : titleFilters typed = [] := if_pos hTyped
    have hVideos : service.reads.listVideos [] sort = .ok (c.foundVideos [] sort) := by
      rw [(ofSettings_eq_ok hService).1]
      exact hHolds.listVideos_eq_of_fits draw ⟨Nat.zero_le _, Nat.zero_le _⟩ (List.forall_mem_nil _) sort
    simp only [search, if_pos hTyped, browse, hVideos, bind, Except.bind, hNone]
    rfl
  · have hTaken := isTaken_of_not_isTagged hPlain hTyped hCompiles
    have hSearch : service.search ⟨typed, sort, tab, number⟩ = _ :=
      search_eq_answer hHolds hService hTyped hTaken.compiles hTaken.words
    rw [hSearch, titleFilters_of_not_isTagged hPlain hTyped]
    rfl

end Pages

/-- Listings are exact, their pages are their slices, and a plain query lists on its pages the videos
that a search for it shows. -/
theorem videos_listed_exactly {s : Store} (hReachable : s.Reachable) (hHolds : s.Holds c)
    {draw : List QuoteRow → List QuoteRow} {settings : SearchSettings} {service : SearchService}
    (hService : ofSettings (s.reads draw) settings = .ok service) :
    (∀ filters : List Filter, (Nesting.ofVideos filters).Fits → (∀ f ∈ filters, f.compiles = true) →
      ListsEachVideoOnce s c draw filters) ∧
    ∀ typed, (Query.parse typed).isTagged = false → (∀ f ∈ titleFilters typed, f.compiles = true) →
      ∀ sort, ListsWhatSearchShows service c typed sort := by
  have hWellFormed := hReachable.catalog_wellFormed hHolds
  obtain ⟨-, rfl⟩ := ofSettings_eq_ok hService
  refine ⟨fun filters => listsEachVideoOnce hWellFormed hHolds draw, fun typed hPlain hCompiles sort => ?_⟩
  refine ⟨_, pagesThrough hHolds hService hCompiles sort,
    fun tab number _ => search_map_videos hHolds hService hPlain hCompiles sort tab number, fun hBlank => ?_⟩
  have hNone : titleFilters typed = [] := if_pos hBlank
  rw [hNone]
  exact hWellFormed.listsVideos [] sort

theorem sample_videos_listed_exactly :
    let filters : List Filter := [.contentWord "creeper", .titleWord "minecraft", .contentWord "a"]
    Store.sample.Reachable ∧ Store.sample.Holds sampleCatalog ∧
      ofSettings (Store.sample.reads id) ⟨1, 24, 10, []⟩ = .ok SearchService.sample ∧
      (Nesting.ofVideos filters).Fits ∧ (∀ f ∈ filters, f.compiles = true) ∧
      (Query.parse " minecraft ").isTagged = false ∧ (∀ f ∈ titleFilters " minecraft ", f.compiles = true) ∧
      ListsEachVideoOnce Store.sample sampleCatalog id filters ∧
      ListsWhatSearchShows SearchService.sample sampleCatalog " minecraft " .newest := by
  intro filters
  have hFits : (Nesting.ofVideos filters).Fits := ⟨by decide, by decide⟩
  have hCompiles : ∀ f ∈ filters, f.compiles = true := by decide +kernel
  have hPlain : (Query.parse " minecraft ").isTagged = false := by decide +kernel
  have hTitle : ∀ f ∈ titleFilters " minecraft ", f.compiles = true := by decide +kernel
  obtain ⟨hListings, hPages⟩ := videos_listed_exactly reachable_sample holds_sample ofSettings_sample
  exact ⟨reachable_sample, holds_sample, ofSettings_sample, hFits, hCompiles, hPlain, hTitle,
    hListings filters hFits hCompiles, hPages " minecraft " hPlain hTitle .newest⟩

/-- More conditions on one quote than the store takes. -/
def crowdedFilters : List Filter := List.replicate 497 (.contentWord "a")

theorem compiles_of_mem_crowdedFilters : ∀ f ∈ crowdedFilters, f.compiles = true := by
  intro f hf
  rw [List.eq_of_mem_replicate hf]
  decide +kernel

theorem not_fits_crowdedFilters : ¬ (Nesting.ofVideos crowdedFilters).Fits := by
  intro hFits
  have hQuote : (Filter.ofKind .content crowdedFilters).length = 497 := by decide +kernel
  have hLength : crowdedFilters.length = 0 + 497 := List.length_replicate
  have hMost := (Nesting.fits_ofVideos_iff hQuote hLength (Nat.zero_le 2)).mp hFits
  exact absurd hMost (by decide)

/-- With too many conditions nothing is listed, though all the patterns compile. -/
theorem crowded_filters_list_nothing :
    Store.sample.Reachable ∧ Store.sample.Holds sampleCatalog ∧ (∀ f ∈ crowdedFilters, f.compiles = true) ∧
      ¬ ListsEachVideoOnce Store.sample sampleCatalog id crowdedFilters := by
  refine ⟨reachable_sample, holds_sample, compiles_of_mem_crowdedFilters, ?_⟩
  rintro ⟨listing, hListing, -⟩
  have hError := hListing .newest
  rw [holds_sample.listVideos_eq_error_of_deep id not_fits_crowdedFilters] at hError
  cases hError

end QuoteSearch
