import QuoteSearch.Proofs.Catalog.WellFormed

/-! # Writing videos again

A video that is written replaces the one with its id, so of all the writes under an id the last one
counts. A catalogue answers by the ids of its videos and in the order of its results. Two catalogues
with the same quotes that find the same video under each id answer alike, though the videos may have
been written first in another order.
-/

namespace QuoteSearch

theorem select_eq_error_of_mem {α : Type} {test : α → Selection Bool} {l : List α} {a : α} (ha : a ∈ l)
    (hTest : test a = .error .patternTooLarge) : select test l = .error .patternTooLarge := by
  induction l with
  | nil => cases ha
  | cons b rest ih =>
    rw [select]
    cases hFirst : test b with
    | error fault => rfl
    | ok holds =>
      rcases List.mem_cons.mp ha with rfl | ha
      · rw [hTest] at hFirst
        cases hFirst
      · rw [ih ha]
        rfl

/-- A selection from the same entries in another order keeps the same ones or fails all the same. -/
theorem select_perm {α : Type} (test : α → Selection Bool) {l l' : List α} (h : l.Perm l') :
    (∃ accepts : α → Bool, select test l = .ok (l.filter accepts) ∧ select test l' = .ok (l'.filter accepts)) ∨
      select test l = .error .patternTooLarge ∧ select test l' = .error .patternTooLarge := by
  by_cases hFault : ∃ a ∈ l, test a = .error .patternTooLarge
  · obtain ⟨a, ha, hTest⟩ := hFault
    exact .inr ⟨select_eq_error_of_mem ha hTest, select_eq_error_of_mem (h.mem_iff.mp ha) hTest⟩
  · have hTest : ∀ a ∈ l, test a = .ok ((test a).toOption.getD false) := by
      intro a ha
      cases hTest : test a with
      | error fault => exact absurd ⟨a, ha, hTest⟩ hFault
      | ok holds => rfl
    exact .inl ⟨_, select_eq hTest, select_eq fun a ha => hTest a (h.mem_iff.mpr ha)⟩

theorem sortVideos_eq_of_perm (sort : SortOrder) {l l' : List Video} (h : l.Perm l')
    (hIds : (l.map Video.id).Nodup) : sortVideos sort l = sortVideos sort l' := by
  have hIds' : (l'.map Video.id).Nodup := (h.map Video.id).nodup_iff.mp hIds
  apply eq_of_pairwise_lt (sortVideos_pairwise_lt sort hIds) (sortVideos_pairwise_lt sort hIds')
  intro v
  rw [(perm_sortVideos sort l).mem_iff, (perm_sortVideos sort l').mem_iff, h.mem_iff]

namespace Catalog

/-- The last of some videos that has an id. -/
def lastWrite (videos : List Video) (id : String) : Option Video := videos.reverse.find? fun v => v.id == id

theorem lastWrite_cons (v : Video) (rest : List Video) (id : String) :
    lastWrite (v :: rest) id = (lastWrite rest id).or (if v.id = id then some v else none) := by
  rw [lastWrite, List.reverse_cons, List.find?_append, List.find?_singleton, lastWrite]
  simp only [beq_iff_eq]

theorem isSome_lastWrite_iff {videos : List Video} {id : String} :
    (lastWrite videos id).isSome = true ↔ id ∈ videos.map Video.id := by
  simp [lastWrite, List.find?_isSome]

variable {c c' : Catalog}

theorem find?_putVideo (video : Video) (videos : List Video) (id : String) :
    (putVideo video videos).find? (fun v => v.id == id) =
      if video.id = id then some video else videos.find? fun v => v.id == id := by
  have hCons : ∀ (v : Video) rest, (v :: rest).find? (fun v => v.id == id) =
      if v.id = id then some v else rest.find? fun v => v.id == id := by
    intro v rest
    by_cases hId : v.id = id <;> simp [hId]
  induction videos with
  | nil => exact hCons video []
  | cons v rest ih =>
    rw [putVideo]
    by_cases hOwn : v.id = video.id
    · rw [if_pos hOwn, hCons, hCons, hOwn]
      split <;> rfl
    · rw [if_neg hOwn, hCons, hCons, ih]
      split_ifs with hId hVideo
      · exact absurd (hId.trans hVideo.symm) hOwn
      · rfl
      · rfl
      · rfl

/-- What is found under an id after a write is the last video that was written under it, or what was
found before. -/
theorem findVideo_upsertVideos (c : Catalog) (videos : List Video) (id : String) :
    (c.upsertVideos videos).findVideo id = (lastWrite videos id).or (c.findVideo id) := by
  rw [upsertVideos]
  induction videos generalizing c with
  | nil => rfl
  | cons v rest ih =>
    have hOne : (c.upsertVideo v).findVideo id = if v.id = id then some v else c.findVideo id :=
      find?_putVideo v c.videos id
    rw [List.foldl_cons, ih, hOne, lastWrite_cons, Option.or_assoc]
    split <;> rfl

theorem upsertVideos_append (c : Catalog) (first second : List Video) :
    c.upsertVideos (first ++ second) = (c.upsertVideos first).upsertVideos second := List.foldl_append

/-- The catalogues have the same quotes and find the same videos. -/
structure Alike (c c' : Catalog) : Prop where
  quotes : c.quotes = c'.quotes
  findVideo : ∀ id, c.findVideo id = c'.findVideo id

theorem alike_upsertVideos (c : Catalog) {videos videos' : List Video}
    (h : ∀ id, lastWrite videos id = lastWrite videos' id) :
    (c.upsertVideos videos).Alike (c.upsertVideos videos') where
  quotes := (c.quotes_upsertVideos videos).1.trans (c.quotes_upsertVideos videos').1.symm
  findVideo id := by rw [findVideo_upsertVideos, findVideo_upsertVideos, h]

theorem Alike.rows_eq (h : c.Alike c') : c.rows = c'.rows := by
  simp only [rows, h.quotes, h.findVideo]

theorem Alike.transcript_eq (h : c.Alike c') (id : String) : c.transcript id = c'.transcript id := by
  rw [transcript, h.quotes, transcript]

theorem Alike.perm_videos (h : c.Alike c') (hWellFormed : c.WellFormed) (hWellFormed' : c'.WellFormed) :
    c.videos.Perm c'.videos := by
  refine (List.perm_ext_iff_of_nodup hWellFormed.ids.of_map hWellFormed'.ids.of_map).mpr fun v => ?_
  have hFind : c.findVideo v.id = some v ↔ c'.findVideo v.id = some v := by rw [h.findVideo]
  simpa only [findVideo_eq_some_iff hWellFormed.ids, findVideo_eq_some_iff hWellFormed'.ids, and_true] using hFind

theorem Alike.listVideos_eq (h : c.Alike c') (hWellFormed : c.WellFormed) (hWellFormed' : c'.WellFormed)
    (filters : List Filter) (sort : SortOrder) : c.listVideos filters sort = c'.listVideos filters sort := by
  have hPerm := h.perm_videos hWellFormed hWellFormed'
  have hTest : c.testVideo filters = c'.testVideo filters := by
    funext v
    rw [testVideo, h.transcript_eq, testVideo]
  rw [listVideos, listVideos, hTest]
  obtain ⟨accepts, hKept, hKept'⟩ | ⟨hFails, hFails'⟩ := select_perm (c'.testVideo filters) hPerm
  · rw [hKept, hKept']
    refine congrArg Except.ok (sortVideos_eq_of_perm sort (hPerm.filter accepts) ?_)
    exact hWellFormed.ids.sublist (List.filter_sublist.map Video.id)
  · rw [hFails, hFails']

theorem Alike.selectRows_eq (h : c.Alike c') (filters : List Filter) :
    c.selectRows filters = c'.selectRows filters := by
  rw [selectRows, h.rows_eq, selectRows]

end Catalog

end QuoteSearch
