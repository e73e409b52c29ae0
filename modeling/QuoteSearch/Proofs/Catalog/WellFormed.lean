import QuoteSearch.Proofs.Catalog.Select
import QuoteSearch.Proofs.Catalog.Written

/-! # Well-formed catalogues

The invariant that every write keeps: no two videos have the same id, every quote belongs to a
video of the catalogue, and the quotes are numbered from one on in the order in which they were
written.
-/

namespace QuoteSearch.Catalog

structure WellFormed (c : Catalog) : Prop where
  ids : (c.videos.map Video.id).Nodup
  owned : ∀ q ∈ c.quotes, q.videoId ∈ c.videos.map Video.id
  numbered : c.quotes.map Quote.id = (List.range c.lastQuote).map fun n => ((n + 1 : Nat) : Int)

variable {c : Catalog}

theorem WellFormed.lastQuote_eq (h : c.WellFormed) : c.lastQuote = c.quotes.length := by
  simpa using (congrArg List.length h.numbered).symm

theorem findVideo_eq_some_iff (h : (c.videos.map Video.id).Nodup) {id : String} {v : Video} :
    c.findVideo id = some v ↔ v ∈ c.videos ∧ v.id = id := by
  rw [findVideo]
  constructor
  · intro hFind
    exact ⟨List.mem_of_find?_eq_some hFind, by simpa using List.find?_some hFind⟩
  · rintro ⟨hv, rfl⟩
    obtain ⟨w, hw⟩ : ∃ w, c.videos.find? (fun w => w.id == v.id) = some w :=
      Option.isSome_iff_exists.mp (List.find?_isSome.mpr ⟨v, hv, beq_self_eq_true v.id⟩)
    have hId : w.id = v.id := by simpa using List.find?_some hw
    rw [hw, List.inj_on_of_nodup_map h (List.mem_of_find?_eq_some hw) hv hId]

theorem wellFormed_empty : empty.WellFormed where
  ids := .nil
  owned := by simp [empty]
  numbered := rfl

theorem WellFormed.upsertVideo (h : c.WellFormed) (video : Video) : (c.upsertVideo video).WellFormed where
  ids := by
    rw [Catalog.upsertVideo, map_id_putVideo]
    split
    · exact h.ids
    · rename_i hNew
      exact List.nodup_append'.mpr ⟨h.ids, List.nodup_singleton _, List.disjoint_singleton.mpr hNew⟩
  owned q hq := by
    rw [Catalog.upsertVideo, map_id_putVideo]
    split
    · exact h.owned q hq
    · exact List.mem_append_left _ (h.owned q hq)
  numbered := h.numbered

theorem WellFormed.upsertVideos (h : c.WellFormed) (videos : List Video) :
    (c.upsertVideos videos).WellFormed := by
  rw [Catalog.upsertVideos]
  induction videos generalizing c with
  | nil => exact h
  | cons video rest ih => exact ih (h.upsertVideo video)

theorem WellFormed.withQuotes (h : c.WellFormed) {videoId : String}
    (hVideo : videoId ∈ c.videos.map Video.id) (quotes : List NewQuote) :
    (c.withQuotes videoId quotes).WellFormed where
  ids := h.ids
  owned q hq := by
    rcases List.mem_append.mp hq with hq | hq
    · exact h.owned q hq
    · obtain ⟨number, entry, hEntry, rfl⟩ := exists_of_mem_numberFrom hq
      obtain ⟨new, -, rfl⟩ := List.mem_map.mp hEntry
      exact hVideo
  numbered := by
    simp only [Catalog.withQuotes, List.map_append, h.numbered, map_id_numberFrom, List.length_map,
      List.range_add, List.range'_eq_map_range, List.map_map]
    refine congrArg _ (List.map_congr_left fun n _ => ?_)
    simp only [Function.comp_apply, Nat.add_right_comm]

theorem WellFormed.insertQuotes {c' : Catalog} (h : c.WellFormed) {videoId : String}
    {quotes : List NewQuote} (hInsert : c.insertQuotes videoId quotes = .ok c') : c'.WellFormed := by
  obtain ⟨-, hVideo, rfl⟩ := insertQuotes_eq_ok_iff.mp hInsert
  cases quotes with
  | nil => exact (withQuotes_nil c videoId).symm ▸ h
  | cons q rest => exact h.withQuotes (hVideo (List.cons_ne_nil q rest)) (q :: rest)

theorem WellFormed.nodup_quoteIds (h : c.WellFormed) : (c.quotes.map Quote.id).Nodup := by
  rw [h.numbered]
  refine List.Nodup.map ?_ List.nodup_range
  intro m n hEq
  exact Nat.succ_injective (Int.ofNat_inj.mp hEq)

theorem WellFormed.map_quote_rows (h : c.WellFormed) : c.rows.map QuoteRow.quote = c.quotes := by
  have hAll : ∀ quotes : List Quote, (∀ q ∈ quotes, q.videoId ∈ c.videos.map Video.id) →
      (quotes.filterMap fun q => (c.findVideo q.videoId).map fun v => QuoteRow.mk v q).map
        QuoteRow.quote = quotes := by
    intro quotes hOwned
    induction quotes with
    | nil => rfl
    | cons q rest ih =>
      obtain ⟨hFirst, hRest⟩ := List.forall_mem_cons.mp hOwned
      obtain ⟨v, hv⟩ := Option.isSome_iff_exists.mp (isSome_findVideo_iff.mpr hFirst)
      simp [hv, ih hRest]
  exact hAll c.quotes h.owned

theorem WellFormed.nodup_rowIds (h : c.WellFormed) : (c.rows.map fun row => row.quote.id).Nodup := by
  have hMap := congrArg (List.map Quote.id) h.map_quote_rows
  rw [List.map_map] at hMap
  exact hMap ▸ h.nodup_quoteIds

end QuoteSearch.Catalog
