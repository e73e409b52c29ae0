import QuoteSearch.Proofs.Catalog.Refreshed
import QuoteSearch.Proofs.Date.Reading
import QuoteSearch.Proofs.Search.Transcript

/-! # The last write of a video counts

Videos are written over the ones with their ids, and nothing else changes: the quotes stay, and what
is shown of a video is what was written last. Neither the order of the writes under different ids nor
the way they are put together into calls can be told from the answers.
-/

namespace QuoteSearch.Store

open Catalog

/-- The second store finds the last video under each id that was written, and otherwise what the first
one found. The quotes are the same, with the videos that are found now. -/
structure RefreshesVideos (s s' : Store) (c : Catalog) (videos : List Video)
    (draw : List QuoteRow → List QuoteRow) : Prop where
  written : ∀ id ∈ videos.map Video.id, ∃ v, lastWrite videos id = some v ∧
    (s'.reads draw).findVideo id = .ok (some v) ∧ Date.read v.uploadDate.text = .ok v.uploadDate
  others : ∀ id ∉ videos.map Video.id, (s'.reads draw).findVideo id = (s.reads draw).findVideo id
  quotes : ∃ c', s' = { s with tables := some c' } ∧ c'.quotes = c.quotes ∧ c'.lastQuote = c.lastQuote
  transcripts : ∀ id, (s'.reads draw).quotesForVideo id = (s.reads draw).quotesForVideo id
  listed : ∀ filters sort page rows, (s'.reads draw).listQuotes filters sort page = .ok rows →
    ∀ row ∈ rows, row.quote ∈ c.quotes ∧
      (s'.reads draw).findVideo row.quote.videoId = .ok (some row.video)
  lists : ∀ filters sort (page : Page), (Nesting.ofQuotes filters).Fits → (∀ f ∈ filters, f.compiles = true) →
    page.before < 2 ^ 63 → ∃ rows, (s'.reads draw).listQuotes filters sort page = .ok rows
  opened : ∀ settings service, SearchService.ofSettings (s'.reads draw) settings = .ok service →
    ∀ id v, (s'.reads draw).findVideo id = .ok (some v) →
      ∀ timing, service.videoDetail id timing = .ok ⟨v, (c.transcript id).map Quote.timed⟩

structure AnswersAlike (s s' : Store) (draw : List QuoteRow → List QuoteRow) : Prop where
  listVideos : ∀ filters sort, (s.reads draw).listVideos filters sort = (s'.reads draw).listVideos filters sort
  findVideo : ∀ id, (s.reads draw).findVideo id = (s'.reads draw).findVideo id
  search : ∀ settings request timing,
    (do (← SearchService.ofSettings (s.reads draw) settings).search request timing) =
      (do (← SearchService.ofSettings (s'.reads draw) settings).search request timing)

/-- Of the writes under an id the last one counts, and a store without a catalogue refuses them. -/
structure LastWriteCounts (s : Store) (draw : List QuoteRow → List QuoteRow) : Prop where
  accepted : ∀ c, s.Holds c → ∀ videos, ∃ s', s.upsertVideos videos = .ok (videos.length, s') ∧
    RefreshesVideos s s' c videos draw
  refused : (∀ c, ¬ s.Holds c) → ∀ videos, videos ≠ [] →
    (∃ fault, s.upsertVideos videos = .error fault) ∧ s.after (.upsertVideos videos) = s
  parts : ∀ first second, s.upsertVideos (first ++ second) = do
    let (count, s₁) ← s.upsertVideos first
    let (count', s₂) ← s₁.upsertVideos second
    return (count + count', s₂)
  anyOrder : ∀ batches batches' : List (List Video),
    (∀ id, lastWrite batches.flatten id = lastWrite batches'.flatten id) →
      AnswersAlike (s.run (batches.map .upsertVideos)) (s.run (batches'.map .upsertVideos)) draw

variable {s s' : Store} {c c' : Catalog}

theorem Holds.upsertVideos_eq (h : s.Holds c) (hWritable : s.address.readOnly = false) (videos : List Video) :
    s.upsertVideos videos = .ok (videos.length, { s with tables := some (c.upsertVideos videos) }) := by
  cases videos with
  | nil =>
    simp only [Catalog.upsertVideos, List.foldl_nil, h.withCatalog_eq]
    rfl
  | cons v rest =>
    rw [upsertVideos, writeVideos_cons, h.transact_eq hWritable]
    rfl

theorem upsertVideos_eq_error {fault : StoreFault} (h : s.access videoTable = .error fault) {videos : List Video}
    (hVideos : videos ≠ []) : s.upsertVideos videos = .error fault := by
  cases videos with
  | nil => exact absurd rfl hVideos
  | cons v rest =>
    rw [upsertVideos, writeVideos_cons, transact, h]
    rfl

theorem Reachable.upsertVideos_append (h : s.Reachable) (first second : List Video) :
    s.upsertVideos (first ++ second) = do
      let (count, s₁) ← s.upsertVideos first
      let (count', s₂) ← s₁.upsertVideos second
      return (count + count', s₂) := by
  obtain ⟨c, hHolds⟩ | ⟨fault, hAccess⟩ := s.exists_holds_or_access_eq_error videoTable
  · have hWritable := h.readOnly_eq_false hHolds
    have hSecond := (hHolds.withCatalog (c.upsertVideos first)).upsertVideos_eq hWritable second
    rw [hHolds.upsertVideos_eq hWritable, hHolds.upsertVideos_eq hWritable, c.upsertVideos_append, List.length_append]
    simp only [bind, Except.bind, hSecond]
    rfl
  · cases first with
    | nil =>
      have hNone : s.upsertVideos [] = .ok (0, s) := rfl
      cases second with
      | nil => rfl
      | cons v rest =>
        simp only [List.nil_append, hNone, upsertVideos_eq_error hAccess (List.cons_ne_nil v rest), bind, Except.bind]
    | cons v rest =>
      rw [List.cons_append, upsertVideos_eq_error hAccess (List.cons_ne_nil v rest),
        upsertVideos_eq_error hAccess (List.cons_ne_nil v (rest ++ second))]
      rfl

theorem Holds.run_upsertVideos (h : s.Holds c) (hWritable : s.address.readOnly = false)
    (batches : List (List Video)) :
    s.run (batches.map .upsertVideos) = { s with tables := some (c.upsertVideos batches.flatten) } := by
  induction batches generalizing s c with
  | nil =>
    rw [List.flatten_nil, Catalog.upsertVideos, List.foldl_nil, h.withCatalog_eq]
    rfl
  | cons videos rest ih =>
    have hAfter : s.after (.upsertVideos videos) = { s with tables := some (c.upsertVideos videos) } :=
      after_upsertVideos_of_ok (h.upsertVideos_eq hWritable videos)
    rw [List.map_cons, run, List.foldl_cons, hAfter]
    rw [List.flatten_cons, c.upsertVideos_append]
    exact ih (h.withCatalog _) hWritable

theorem after_upsertVideos_of_access {fault : StoreFault} (h : s.access videoTable = .error fault)
    (videos : List Video) : s.after (.upsertVideos videos) = s := by
  by_cases hVideos : videos = []
  · rw [hVideos]
    rfl
  · exact after_upsertVideos_of_error (upsertVideos_eq_error h hVideos)

theorem run_upsertVideos_of_access {fault : StoreFault} (h : s.access videoTable = .error fault)
    (batches : List (List Video)) : s.run (batches.map .upsertVideos) = s := by
  induction batches with
  | nil => rfl
  | cons videos rest ih =>
    rw [List.map_cons, run, List.foldl_cons, after_upsertVideos_of_access h]
    exact ih

/-- Nothing that is read tells catalogues apart that find the same videos. -/
theorem Holds.reads_eq (h : s.Holds c) (h' : s'.Holds c') (hWellFormed : c.WellFormed)
    (hWellFormed' : c'.WellFormed) (hAlike : c.Alike c') (draw : List QuoteRow → List QuoteRow) :
    s.reads draw = s'.reads draw := by
  have hVideos := hAlike.listVideos_eq hWellFormed hWellFormed'
  simp only [reads, Reads.mk.injEq]
  refine ⟨?_, ?_, ?_, ?_, ?_, ?_, ?_, ?_⟩
  · funext filters sort
    exact h.read_congr h' _ Iff.rfl (hVideos filters sort)
  · funext filters sort page
    exact h.read_congr h' _ Iff.rfl (congrArg _ (hVideos filters sort))
  · funext filters
    exact h.read_congr h' _ Iff.rfl (congrArg _ (hAlike.selectRows_eq filters))
  · funext filters sort page
    refine h.read_congr h' _ Iff.rfl ?_
    simp only [listQuotes, hAlike.selectRows_eq]
  · funext id
    exact h.read_congr h' _ Iff.rfl (congrArg _ (hAlike.findVideo id))
  · funext id
    exact h.read_congr h' _ Iff.rfl (congrArg _ (hAlike.transcript_eq id))
  · funext limit
    refine h.read_congr h' _ Iff.rfl ?_
    simp only [hAlike.rows_eq]
  · funext pattern
    refine congrArg (ite _ · _) (h.read_congr h' _ Iff.rfl ?_)
    simp only [countOccurrences, hAlike.quotes]

theorem answersAlike_of_reads {draw : List QuoteRow → List QuoteRow} (h : s.reads draw = s'.reads draw) :
    AnswersAlike s s' draw where
  listVideos _ _ := by rw [h]
  findVideo _ := by rw [h]
  search _ _ _ := by rw [h]

theorem Holds.refreshesVideos (h : s.Holds c) (videos : List Video) (draw : List QuoteRow → List QuoteRow) :
    RefreshesVideos s { s with tables := some (c.upsertVideos videos) } c videos draw := by
  have hAfter := h.withCatalog (c.upsertVideos videos)
  obtain ⟨hQuotes, hLast⟩ := c.quotes_upsertVideos videos
  have hTranscript : ∀ id, (c.upsertVideos videos).transcript id = c.transcript id := by
    intro id
    rw [transcript, hQuotes, transcript]
  refine ⟨?_, ?_, ⟨_, rfl, hQuotes, hLast⟩, ?_, ?_, ?_, ?_⟩
  · intro id hId
    obtain ⟨v, hv⟩ := Option.isSome_iff_exists.mp (isSome_lastWrite_iff.mpr hId)
    refine ⟨v, hv, ?_, Date.read_text v.uploadDate⟩
    rw [hAfter.findVideo_eq, findVideo_upsertVideos, hv, Option.some_or]
  · intro id hId
    have hNone : lastWrite videos id = none := by
      rwa [← Option.not_isSome_iff_eq_none, isSome_lastWrite_iff]
    rw [hAfter.findVideo_eq, h.findVideo_eq, findVideo_upsertVideos, hNone, Option.none_or]
  · intro id
    rw [hAfter.quotesForVideo_eq, h.quotesForVideo_eq, hTranscript]
  · intro filters sort page rows hRows row hRow
    obtain ⟨c', hHolds', hQuery⟩ := read_eq_ok hRows
    obtain rfl : c.upsertVideos videos = c' := Option.some.inj (hAfter.tables.symm.trans hHolds'.tables)
    obtain ⟨all, hAll, rfl⟩ := exists_of_map_eq_ok hQuery
    have hMem : row ∈ (c.upsertVideos videos).foundRows filters sort := by
      rw [listQuotes_eq_ok hAll]
      exact List.mem_of_mem_drop (List.mem_of_mem_take hRow)
    obtain ⟨hQuote, hFind, -⟩ := mem_foundRows.mp hMem
    rw [hAfter.findVideo_eq, hFind]
    exact ⟨hQuotes ▸ hQuote, rfl⟩
  · intro filters sort page hFits hCompiles _
    exact ⟨_, hAfter.listQuotes_eq_of_fits draw hFits hCompiles sort page⟩
  · intro settings service hService id v hFind timing
    rw [hAfter.findVideo_eq] at hFind
    rw [SearchService.videoDetail_eq_ok hAfter hService (Except.ok.inj hFind) timing, hTranscript]

/-- A write of videos refreshes them and nothing else, and of several writes the last ones count. -/
theorem last_write_of_videos_counts (hReachable : s.Reachable) (draw : List QuoteRow → List QuoteRow) :
    LastWriteCounts s draw := by
  have hWritable : ∀ {c}, s.Holds c → s.address.readOnly = false := hReachable.readOnly_eq_false
  refine ⟨?_, ?_, ?_, ?_⟩
  · intro c hHolds videos
    exact ⟨_, hHolds.upsertVideos_eq (hWritable hHolds) videos, hHolds.refreshesVideos videos draw⟩
  · intro hNone videos hVideos
    obtain ⟨c, hHolds⟩ | ⟨fault, hAccess⟩ := s.exists_holds_or_access_eq_error videoTable
    · exact absurd hHolds (hNone c)
    · exact ⟨⟨fault, upsertVideos_eq_error hAccess hVideos⟩, after_upsertVideos_of_access hAccess videos⟩
  · exact hReachable.upsertVideos_append
  · intro batches batches' hSame
    apply answersAlike_of_reads
    obtain ⟨c, hHolds⟩ | ⟨fault, hAccess⟩ := s.exists_holds_or_access_eq_error videoTable
    · -- What is found under each id decides the answers, and the last writes decide what is found.
      have hCatalog := hReachable.catalog_wellFormed hHolds
      rw [hHolds.run_upsertVideos (hWritable hHolds), hHolds.run_upsertVideos (hWritable hHolds)]
      exact (hHolds.withCatalog _).reads_eq (hHolds.withCatalog _) (hCatalog.upsertVideos _)
        (hCatalog.upsertVideos _) (c.alike_upsertVideos hSame) draw
    · rw [run_upsertVideos_of_access hAccess, run_upsertVideos_of_access hAccess]

/-- The video is there with quotes, and it is written twice. -/
theorem sample_last_write_of_videos_counts :
    let videos : List Video := [⟨"hardcore001", "Hardcore", "", ⟨2023, 1, 11, by decide⟩⟩,
      ⟨"hardcore001", "Hardcore again", "again.png", ⟨-1, 1, 12, by decide⟩⟩]
    sample.Reachable ∧ sample.Holds sampleCatalog ∧ LastWriteCounts sample id ∧
      ∃ s', sample.upsertVideos videos = .ok (2, s') ∧ RefreshesVideos sample s' sampleCatalog videos id := by
  intro videos
  have hCounts := last_write_of_videos_counts reachable_sample id
  exact ⟨reachable_sample, holds_sample, hCounts, hCounts.accepted sampleCatalog holds_sample videos⟩

end QuoteSearch.Store
