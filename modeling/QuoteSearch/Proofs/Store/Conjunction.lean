import QuoteSearch.Proofs.Search.Listing

/-! # Filters hold together

A list of filters asks for all that each of them asks. It is only their members that count, neither
their order nor how often one is repeated, and with more filters fewer videos and quotes are found, in
the order that they had. The store refuses lists that nest too deep, and there the number of filters
counts as well.
-/

namespace QuoteSearch

namespace Catalog

variable {c : Catalog} {filters more : List Filter} {v : Video} {row : QuoteRow}

theorem accepts_of_subset (h : ∀ f ∈ filters, f ∈ more) (hAccepts : c.accepts more v = true) :
    c.accepts filters v = true := by
  rw [accepts_iff] at hAccepts ⊢
  obtain ⟨hVideo, hQuotes⟩ := hAccepts
  refine ⟨fun f hf => hVideo f (h f hf), ?_⟩
  rintro ⟨term, hTerm⟩
  -- The quote that fulfils more filters fulfils these as well.
  obtain ⟨q, hq, hOwner, hRow⟩ := hQuotes ⟨term, h _ hTerm⟩
  exact ⟨q, hq, hOwner, fun f hf => hRow f (h f hf)⟩

theorem all_acceptsRow_of_subset (h : ∀ f ∈ filters, f ∈ more)
    (hAccepts : more.all (Filter.acceptsRow row) = true) : filters.all (Filter.acceptsRow row) = true := by
  rw [List.all_eq_true] at hAccepts ⊢
  exact fun f hf => hAccepts f (h f hf)

theorem foundVideos_congr (c : Catalog) (h : ∀ f, f ∈ filters ↔ f ∈ more) (sort : SortOrder) :
    c.foundVideos filters sort = c.foundVideos more sort := by
  have hSame : c.accepts filters = c.accepts more := by
    funext v
    rw [Bool.eq_iff_iff]
    exact ⟨accepts_of_subset fun f => (h f).mpr, accepts_of_subset fun f => (h f).mp⟩
  rw [foundVideos, foundVideos, hSame]

theorem foundRows_congr (c : Catalog) (h : ∀ f, f ∈ filters ↔ f ∈ more) (sort : SortOrder) :
    c.foundRows filters sort = c.foundRows more sort := by
  have hSame : ∀ row, filters.all (Filter.acceptsRow row) = more.all (Filter.acceptsRow row) := by
    intro row
    rw [Bool.eq_iff_iff]
    exact ⟨all_acceptsRow_of_subset fun f => (h f).mpr, all_acceptsRow_of_subset fun f => (h f).mp⟩
  simp only [foundRows, hSame]

theorem WellFormed.foundVideos_of_subset (hCatalog : c.WellFormed) (h : ∀ f ∈ filters, f ∈ more)
    (sort : SortOrder) :
    c.foundVideos more sort = (c.foundVideos filters sort).filter (c.accepts more) := by
  apply eq_of_pairwise_lt (hCatalog.foundVideos_pairwise_lt more sort)
    ((hCatalog.foundVideos_pairwise_lt filters sort).sublist List.filter_sublist)
  intro v
  rw [List.mem_filter, mem_foundVideos, mem_foundVideos]
  constructor
  · rintro ⟨hv, hMore⟩
    exact ⟨⟨hv, accepts_of_subset h hMore⟩, hMore⟩
  · rintro ⟨⟨hv, -⟩, hMore⟩
    exact ⟨hv, hMore⟩

theorem WellFormed.foundRows_of_subset (hCatalog : c.WellFormed) (h : ∀ f ∈ filters, f ∈ more)
    (sort : SortOrder) :
    c.foundRows more sort =
      (c.foundRows filters sort).filter fun row => more.all (Filter.acceptsRow row) := by
  apply eq_of_pairwise_lt (hCatalog.foundRows_pairwise_lt more sort)
    ((hCatalog.foundRows_pairwise_lt filters sort).sublist List.filter_sublist)
  intro row
  rw [List.mem_filter, mem_foundRows, mem_foundRows, List.all_eq_true]
  constructor
  · rintro ⟨hQuote, hFind, hMore⟩
    exact ⟨⟨hQuote, hFind, fun f hf => hMore f (h f hf)⟩, hMore⟩
  · rintro ⟨⟨hQuote, hFind, -⟩, hMore⟩
    exact ⟨hQuote, hFind, hMore⟩

end Catalog

namespace Store

/-- The store takes both conditions; if it has a catalogue, it may refuse both as well. -/
def TakesAlike (s : Store) (nesting nesting' : Nesting) : Prop :=
  (nesting.Fits ∧ nesting'.Fits) ∨ (∃ c, s.Holds c) ∧ (nesting.Fits ↔ nesting'.Fits)

/-- Two lists of filters get the same answers, unless the store takes one and refuses the other. -/
structure AnswersAsTo (s : Store) (draw : List QuoteRow → List QuoteRow) (filters others : List Filter) : Prop where
  videos : s.TakesAlike (.ofVideos filters) (.ofVideos others) → ∀ sort,
    (s.reads draw).listVideos filters sort = (s.reads draw).listVideos others sort ∧
      ∀ page, (s.reads draw).listVideosPage filters sort page = (s.reads draw).listVideosPage others sort page
  quotes : s.TakesAlike (.ofQuotes filters) (.ofQuotes others) →
    (s.reads draw).countQuotes filters = (s.reads draw).countQuotes others ∧
      ∀ sort page, (s.reads draw).listQuotes filters sort page = (s.reads draw).listQuotes others sort page

/-- What is found with more filters is the part that fulfils them of what is found with some of them, in
the same order. A page of quotes is asked for by its number as long as 63 bits count the quotes before it. -/
structure FindsPart (s : Store) (c : Catalog) (draw : List QuoteRow → List QuoteRow) (filters more : List Filter) :
    Prop where
  videos : (Nesting.ofVideos filters).Fits → (Nesting.ofVideos more).Fits → ∀ sort, ∃ all part,
    (s.reads draw).listVideos filters sort = .ok all ∧ (s.reads draw).listVideos more sort = .ok part ∧
      part = all.filter (c.accepts more) ∧ part.Sublist all
  quotes : (Nesting.ofQuotes filters).Fits → (Nesting.ofQuotes more).Fits → ∀ sort, ∃ all part : List QuoteRow,
    (∀ page : Page, page.before < 2 ^ 63 → (s.reads draw).listQuotes filters sort page = .ok (page.slice all)) ∧
      (∀ page : Page, page.before < 2 ^ 63 → (s.reads draw).listQuotes more sort page = .ok (page.slice part)) ∧
      part = all.filter (fun row => more.all (Filter.acceptsRow row)) ∧ part.Sublist all ∧
      (s.reads draw).countQuotes filters = .ok all.length ∧ (s.reads draw).countQuotes more = .ok part.length ∧
      part.length ≤ all.length

variable {s : Store} {c : Catalog} {filters more : List Filter}

theorem read_eq_of_takesAlike {α : Type} (table : String) {nesting nesting' : Nesting}
    (hTakes : s.TakesAlike nesting nesting') {query query' : Catalog → Selection α}
    (hQuery : ∀ c, query c = query' c) : s.read table nesting query = s.read table nesting' query' := by
  obtain ⟨hFits, hFits'⟩ | ⟨⟨c, hHolds⟩, hTaken⟩ := hTakes
  · obtain ⟨c, hHolds⟩ | ⟨fault, hAccess⟩ := s.exists_holds_or_access_eq_error table
    · exact hHolds.read_congr hHolds table (iff_of_true hFits hFits') (hQuery c)
    · rw [read_eq_error_of_access hAccess hFits, read_eq_error_of_access hAccess hFits']
  · exact hHolds.read_congr hHolds table hTaken (hQuery c)

theorem answersAsTo (s : Store) (draw : List QuoteRow → List QuoteRow) (hCompiles : ∀ f ∈ filters, f.compiles = true)
    (hMore : ∀ f ∈ more, f.compiles = true) (h : ∀ f, f ∈ filters ↔ f ∈ more) : AnswersAsTo s draw filters more := by
  have hVideos : ∀ sort (c : Catalog), c.listVideos filters sort = c.listVideos more sort := by
    intro sort c
    rw [c.listVideos_eq hCompiles, c.listVideos_eq hMore, c.foundVideos_congr h]
  have hRows : ∀ sort (c : Catalog), c.listQuotes filters sort = c.listQuotes more sort := by
    intro sort c
    rw [c.listQuotes_eq hCompiles, c.listQuotes_eq hMore, c.foundRows_congr h]
  have hCount : ∀ c : Catalog, c.countQuotes filters = c.countQuotes more := by
    intro c
    rw [c.countQuotes_eq hCompiles .newest, c.countQuotes_eq hMore .newest, c.foundRows_congr h]
  refine ⟨fun hTakes sort => ⟨?_, fun page => ?_⟩, fun hTakes => ⟨?_, fun sort page => ?_⟩⟩
  · exact read_eq_of_takesAlike _ hTakes (hVideos sort)
  · exact read_eq_of_takesAlike _ hTakes fun c => congrArg _ (hVideos sort c)
  · exact read_eq_of_takesAlike _ hTakes hCount
  · exact read_eq_of_takesAlike _ hTakes fun c => congrArg _ (hRows sort c)

theorem Holds.findsPart (hHolds : s.Holds c) (hCatalog : c.WellFormed) (draw : List QuoteRow → List QuoteRow)
    (hCompiles : ∀ f ∈ filters, f.compiles = true) (hMore : ∀ f ∈ more, f.compiles = true)
    (h : ∀ f ∈ filters, f ∈ more) : FindsPart s c draw filters more := by
  refine ⟨fun hFits hFitsMore sort => ?_, fun hFits hFitsMore sort => ?_⟩
  · have hPart := hCatalog.foundVideos_of_subset h sort
    exact ⟨_, _, hHolds.listVideos_eq_of_fits draw hFits hCompiles sort,
      hHolds.listVideos_eq_of_fits draw hFitsMore hMore sort, hPart, hPart ▸ List.filter_sublist⟩
  · have hPart := hCatalog.foundRows_of_subset h sort
    have hSublist : (c.foundRows more sort).Sublist (c.foundRows filters sort) := hPart ▸ List.filter_sublist
    exact ⟨_, _, fun page _ => hHolds.listQuotes_eq_of_fits draw hFits hCompiles sort page,
      fun page _ => hHolds.listQuotes_eq_of_fits draw hFitsMore hMore sort page, hPart, hSublist,
      hHolds.countQuotes_eq_of_fits draw hFits hCompiles sort,
      hHolds.countQuotes_eq_of_fits draw hFitsMore hMore sort, hSublist.length_le⟩

/-- The members of a list of filters decide what is found, and more of them find less. -/
theorem filters_hold_together (hReachable : s.Reachable) (draw : List QuoteRow → List QuoteRow)
    (hCompiles : ∀ f ∈ filters, f.compiles = true) (hMore : ∀ f ∈ more, f.compiles = true) :
    ((∀ f, f ∈ filters ↔ f ∈ more) → AnswersAsTo s draw filters more) ∧
      ∀ c, s.Holds c → (∀ f ∈ filters, f ∈ more) → FindsPart s c draw filters more := by
  refine ⟨answersAsTo s draw hCompiles hMore, fun c hHolds => ?_⟩
  exact hHolds.findsPart (hReachable.catalog_wellFormed hHolds) draw hCompiles hMore

theorem sample_filters_hold_together :
    let filters : List Filter := [.contentWord "creeper", .titleWord "minecraft"]
    let others : List Filter := [.titleWord "minecraft", .contentWord "creeper", .titleWord "minecraft"]
    let more : List Filter := [.videoId "hardcore001", .contentWord "a", .titleWord "minecraft", .contentWord "creeper"]
    sample.Reachable ∧ sample.Holds sampleCatalog ∧ (∀ f ∈ filters, f.compiles = true) ∧
      (∀ f ∈ others, f.compiles = true) ∧ (∀ f ∈ more, f.compiles = true) ∧
      AnswersAsTo sample id filters others ∧ FindsPart sample sampleCatalog id filters more := by
  intro filters others more
  have hCompiles : ∀ f ∈ filters, f.compiles = true := by decide +kernel
  have hOthers : ∀ f ∈ others, f.compiles = true := by decide +kernel
  have hMore : ∀ f ∈ more, f.compiles = true := by decide +kernel
  have hSame : ∀ f, f ∈ filters ↔ f ∈ others := by
    intro f
    simp only [filters, others, List.mem_cons, List.not_mem_nil, or_false]
    grind
  refine ⟨reachable_sample, holds_sample, hCompiles, hOthers, hMore, ?_, ?_⟩
  · exact (filters_hold_together reachable_sample id hCompiles hOthers).1 hSame
  · exact (filters_hold_together reachable_sample id hCompiles hMore).2 _ holds_sample (by decide)

/-- A filter that lists a video lists nothing when it is repeated too often. -/
theorem repeated_filter_is_refused :
    let filters : List Filter := [.contentWord "a"]
    sample.Reachable ∧ (∀ f ∈ filters, f.compiles = true) ∧ (∀ f ∈ crowdedFilters, f.compiles = true) ∧
      (∀ f, f ∈ filters ↔ f ∈ crowdedFilters) ∧
      (sample.reads id).listVideos filters .newest ≠ (sample.reads id).listVideos crowdedFilters .newest := by
  intro filters
  have hCompiles : ∀ f ∈ filters, f.compiles = true := by decide +kernel
  have hFits : (Nesting.ofVideos filters).Fits := ⟨by decide, by decide⟩
  refine ⟨reachable_sample, hCompiles, compiles_of_mem_crowdedFilters, ?_, ?_⟩
  · intro f
    rw [crowdedFilters, List.mem_replicate, List.mem_singleton, and_iff_right (by decide)]
  · rw [holds_sample.listVideos_eq_of_fits id hFits hCompiles,
      holds_sample.listVideos_eq_error_of_deep id not_fits_crowdedFilters]
    exact nofun

end Store

end QuoteSearch
