import QuoteSearch.Catalog.Select
import QuoteSearch.Proofs.Basic
import QuoteSearch.Proofs.Catalog.Order

/-! # What a selection finds

Filters whose patterns compile mean something for each video and each quote, apart from the order
in which they are tested. With them a selection never fails, and it finds exactly the videos and
the quotes that all the filters accept.
-/

namespace QuoteSearch

namespace Filter

/-- The pattern of the filter is not too large to search for. -/
def compiles : Filter → Bool
  | .videoId _ => true
  | .titleWord term | .contentWord term => (WordPattern.word term).fits

/-- What a filter asks of a video itself. -/
def acceptsVideo (v : Video) : Filter → Bool
  | .videoId id => v.id == id
  | .titleWord term => (WordPattern.word term).occursIn v.title
  | .contentWord _ => true

/-- What a filter asks of a quote and its video. -/
def acceptsRow (row : QuoteRow) : Filter → Bool
  | .contentWord term => (WordPattern.word term).occursIn row.quote.content
  | f => f.acceptsVideo row.video

theorem testWord_eq {term : String} (h : (WordPattern.word term).fits = true) (text : String) :
    testWord term text = .ok ((WordPattern.word term).occursIn text) := by
  simp only [testWord, h, if_true]

theorem testVideo_eq {f : Filter} (h : f.compiles = true) (v : Video) :
    f.testVideo v = .ok (f.acceptsVideo v) := by
  cases f with
  | videoId id => rfl
  | titleWord term => exact testWord_eq h v.title
  | contentWord term => rfl

theorem testRow_eq {f : Filter} (h : f.compiles = true) (row : QuoteRow) :
    f.testRow row = .ok (f.acceptsRow row) := by
  cases f with
  | videoId id => rfl
  | titleWord term => exact testWord_eq h row.video.title
  | contentWord term => exact testWord_eq h row.quote.content

/-- A test that does not fail finds what the filter asks, whether or not its pattern compiles. -/
theorem testRow_eq_ok {f : Filter} {row : QuoteRow} {holds : Bool} (h : f.testRow row = .ok holds) :
    f.acceptsRow row = holds := by
  have hWord : ∀ {term text : String}, testWord term text = .ok holds →
      (WordPattern.word term).occursIn text = holds := by
    intro term text hTest
    rw [testWord] at hTest
    split at hTest
    · exact Except.ok.inj hTest
    · cases hTest
  cases f with
  | videoId id => exact Except.ok.inj h
  | titleWord term => exact hWord h
  | contentWord term => exact hWord h

theorem acceptsVideo_of_acceptsRow {f : Filter} {row : QuoteRow} (h : f.acceptsRow row = true) :
    f.acceptsVideo row.video = true := by
  cases f with
  | videoId id => exact h
  | titleWord term => exact h
  | contentWord term => rfl

theorem forall_acceptsVideo_iff {filters : List Filter} {v : Video} :
    (∀ f ∈ filters, f.acceptsVideo v = true) ↔ (∀ id, videoId id ∈ filters → v.id = id) ∧
      ∀ term, titleWord term ∈ filters → (WordPattern.word term).occursIn v.title = true := by
  constructor
  · intro h
    exact ⟨fun id hId => beq_iff_eq.mp (h _ hId), fun term hTerm => h _ hTerm⟩
  · rintro ⟨hId, hTitle⟩ f hf
    cases f with
    | videoId id => exact beq_iff_eq.mpr (hId id hf)
    | titleWord term => exact hTitle term hf
    | contentWord term => rfl

theorem forall_acceptsRow_iff {filters : List Filter} {row : QuoteRow} :
    (∀ f ∈ filters, f.acceptsRow row = true) ↔ (∀ f ∈ filters, f.acceptsVideo row.video = true) ∧
      ∀ term, contentWord term ∈ filters → (WordPattern.word term).occursIn row.quote.content = true := by
  constructor
  · intro h
    exact ⟨fun f hf => acceptsVideo_of_acceptsRow (h f hf), fun term hTerm => h _ hTerm⟩
  · rintro ⟨hVideo, hContent⟩ f hf
    cases f with
    | contentWord term => exact hContent term hf
    | _ => exact hVideo _ hf

theorem all_eq {test : Filter → Selection Bool} {accepts : Filter → Bool} {filters : List Filter}
    (h : ∀ f ∈ filters, test f = .ok (accepts f)) : all test filters = .ok (filters.all accepts) := by
  induction filters with
  | nil => rfl
  | cons f rest ih =>
    obtain ⟨hFirst, hRest⟩ := List.forall_mem_cons.mp h
    rw [all, hFirst, ih hRest, List.all_cons]
    cases accepts f <;> rfl

theorem all_eq_ok {test : Filter → Selection Bool} {accepts : Filter → Bool} {filters : List Filter} {holds : Bool}
    (hTest : ∀ f b, test f = .ok b → accepts f = b) (h : all test filters = .ok holds) :
    filters.all accepts = holds := by
  induction filters with
  | nil => exact Except.ok.inj h
  | cons f rest ih =>
    obtain ⟨b, hFirst, hRest⟩ := exists_of_bind_eq_ok h
    rw [List.all_cons, hTest f b hFirst]
    cases b with
    | false => exact Except.ok.inj hRest
    | true => exact ih hRest

theorem touchQuotes_iff {filters : List Filter} :
    touchQuotes filters = true ↔ ∃ term, contentWord term ∈ filters := by
  rw [touchQuotes, List.any_eq_true]
  constructor
  · rintro ⟨f, hf, hKind⟩
    cases f with
    | contentWord term => exact ⟨term, hf⟩
    | _ => cases hKind
  · rintro ⟨term, hTerm⟩
    exact ⟨_, hTerm, rfl⟩

end Filter

theorem select_eq {α : Type} {test : α → Selection Bool} {accepts : α → Bool} {l : List α}
    (h : ∀ a ∈ l, test a = .ok (accepts a)) : select test l = .ok (l.filter accepts) := by
  induction l with
  | nil => rfl
  | cons a rest ih =>
    obtain ⟨hFirst, hRest⟩ := List.forall_mem_cons.mp h
    rw [select, hFirst, ih hRest, List.filter_cons]
    cases accepts a <;> rfl

/-- What a selection returns is what the test finds. -/
theorem select_eq_ok {α : Type} {test : α → Selection Bool} {accepts : α → Bool} {l kept : List α}
    (hTest : ∀ a b, test a = .ok b → accepts a = b) (h : select test l = .ok kept) : l.filter accepts = kept := by
  induction l generalizing kept with
  | nil => exact Except.ok.inj h
  | cons a rest ih =>
    obtain ⟨b, hFirst, h⟩ := exists_of_bind_eq_ok h
    obtain ⟨later, hRest, hKept⟩ := exists_of_bind_eq_ok h
    rw [List.filter_cons, hTest a b hFirst, ih hRest]
    exact Except.ok.inj hKept

theorem selectAny_eq {α : Type} {test : α → Selection Bool} {accepts : α → Bool} {l : List α}
    (h : ∀ a ∈ l, test a = .ok (accepts a)) : selectAny test l = .ok (l.any accepts) := by
  induction l with
  | nil => rfl
  | cons a rest ih =>
    obtain ⟨hFirst, hRest⟩ := List.forall_mem_cons.mp h
    rw [selectAny, hFirst, ih hRest, List.any_cons]
    cases accepts a <;> rfl

namespace Catalog

/-- What filters ask of a video of the catalogue: those on quotes ask for one quote of it that
fulfils them all. -/
def accepts (c : Catalog) (filters : List Filter) (v : Video) : Bool :=
  filters.all (Filter.acceptsVideo v) && (!Filter.touchQuotes filters ||
    (c.transcript v.id).any fun q =>
      (Filter.ofKind .content filters).all (Filter.acceptsRow ⟨v, q⟩))

variable {filters : List Filter}

theorem testVideo_eq (c : Catalog) (h : ∀ f ∈ filters, f.compiles = true) (v : Video) :
    c.testVideo filters v = .ok (c.accepts filters v) := by
  have hVideo := Filter.all_eq fun f hf => Filter.testVideo_eq (h f hf) v
  have hQuotes : selectAny
      (fun q => Filter.all (Filter.testRow ⟨v, q⟩) (Filter.ofKind .content filters))
      (c.transcript v.id) = .ok _ :=
    selectAny_eq fun q _ => Filter.all_eq fun f hf => Filter.testRow_eq (h f (List.mem_of_mem_filter hf)) ⟨v, q⟩
  rw [testVideo, hVideo, hQuotes, accepts]
  cases filters.all (Filter.acceptsVideo v) <;> cases Filter.touchQuotes filters <;> rfl

/-- The videos that the filters accept, in the order of a result. -/
def foundVideos (c : Catalog) (filters : List Filter) (sort : SortOrder) : List Video :=
  sortVideos sort (c.videos.filter (c.accepts filters))

theorem listVideos_eq (c : Catalog) (h : ∀ f ∈ filters, f.compiles = true) (sort : SortOrder) :
    c.listVideos filters sort = .ok (c.foundVideos filters sort) := by
  rw [listVideos, select_eq fun v _ => c.testVideo_eq h v]
  rfl

theorem selectRows_eq (c : Catalog) (h : ∀ f ∈ filters, f.compiles = true) :
    c.selectRows filters = .ok (c.rows.filter fun row => filters.all (Filter.acceptsRow row)) :=
  select_eq fun row _ => Filter.all_eq fun f hf => Filter.testRow_eq (h f hf) row

/-- The rows that all the filters accept, in the order of a result. -/
def foundRows (c : Catalog) (filters : List Filter) (sort : SortOrder) : List QuoteRow :=
  sortRows sort (c.rows.filter fun row => filters.all (Filter.acceptsRow row))

theorem listQuotes_eq (c : Catalog) (h : ∀ f ∈ filters, f.compiles = true) (sort : SortOrder) :
    c.listQuotes filters sort = .ok (c.foundRows filters sort) := by
  rw [listQuotes, c.selectRows_eq h]
  rfl

theorem countQuotes_eq (c : Catalog) (h : ∀ f ∈ filters, f.compiles = true) (sort : SortOrder) :
    c.countQuotes filters = .ok (c.foundRows filters sort).length := by
  rw [countQuotes, c.selectRows_eq h, foundRows, (perm_sortRows sort _).length_eq]
  rfl

theorem selectRows_eq_ok {c : Catalog} {rows : List QuoteRow} (h : c.selectRows filters = .ok rows) :
    (c.rows.filter fun row => filters.all (Filter.acceptsRow row)) = rows :=
  select_eq_ok (fun _ _ => Filter.all_eq_ok fun _ _ => Filter.testRow_eq_ok) h

theorem listQuotes_eq_ok {c : Catalog} {sort : SortOrder} {rows : List QuoteRow}
    (h : c.listQuotes filters sort = .ok rows) : c.foundRows filters sort = rows := by
  obtain ⟨found, hFound, hRows⟩ := exists_of_map_eq_ok h
  rw [foundRows, selectRows_eq_ok hFound, hRows]

theorem countQuotes_eq_ok {c : Catalog} {n : Nat} (h : c.countQuotes filters = .ok n) (sort : SortOrder) :
    (c.foundRows filters sort).length = n := by
  obtain ⟨found, hFound, hLength⟩ := exists_of_map_eq_ok h
  rw [foundRows, (perm_sortRows sort _).length_eq, selectRows_eq_ok hFound, hLength]

theorem mem_rows {c : Catalog} {row : QuoteRow} :
    row ∈ c.rows ↔ row.quote ∈ c.quotes ∧ c.findVideo row.quote.videoId = some row.video := by
  rw [rows, List.mem_filterMap]
  constructor
  · rintro ⟨q, hq, hRow⟩
    obtain ⟨v, hv, rfl⟩ := Option.map_eq_some_iff.mp hRow
    exact ⟨hq, hv⟩
  · rintro ⟨hq, hv⟩
    exact ⟨row.quote, hq, by rw [hv]; rfl⟩

theorem mem_foundRows {c : Catalog} {sort : SortOrder} {row : QuoteRow} :
    row ∈ c.foundRows filters sort ↔ row.quote ∈ c.quotes ∧
      c.findVideo row.quote.videoId = some row.video ∧ ∀ f ∈ filters, f.acceptsRow row = true := by
  rw [foundRows, (perm_sortRows sort _).mem_iff, List.mem_filter, mem_rows, List.all_eq_true, and_assoc]

theorem length_foundRows_le (c : Catalog) (filters : List Filter) (sort : SortOrder) :
    (c.foundRows filters sort).length ≤ c.quotes.length := by
  rw [foundRows, (perm_sortRows sort _).length_eq]
  exact (List.length_filter_le _ _).trans (List.length_filterMap_le _ _)

theorem mem_transcript {c : Catalog} {videoId : String} {q : Quote} :
    q ∈ c.transcript videoId ↔ q ∈ c.quotes ∧ q.videoId = videoId := by
  rw [transcript, (perm_sortQuotes _).mem_iff, List.mem_filter, beq_iff_eq]

theorem mem_foundVideos {c : Catalog} {sort : SortOrder} {v : Video} :
    v ∈ c.foundVideos filters sort ↔ v ∈ c.videos ∧ c.accepts filters v = true := by
  rw [foundVideos, (perm_sortVideos sort _).mem_iff, List.mem_filter]

theorem accepts_iff {c : Catalog} {v : Video} :
    c.accepts filters v = true ↔ (∀ f ∈ filters, f.acceptsVideo v = true) ∧
      ((∃ term, Filter.contentWord term ∈ filters) → ∃ q ∈ c.quotes, q.videoId = v.id ∧
        ∀ f ∈ filters, f.acceptsRow ⟨v, q⟩ = true) := by
  rw [accepts, Bool.and_eq_true, Bool.or_eq_true, Bool.not_eq_true', ← Bool.not_eq_true,
    ← imp_iff_not_or, Filter.touchQuotes_iff, List.all_eq_true]
  refine and_congr_right fun hVideo => imp_congr_right fun _ => ?_
  simp only [List.any_eq_true, mem_transcript, List.all_eq_true, and_assoc]
  refine exists_congr fun q => and_congr_right fun _ => and_congr_right fun _ => ?_
  constructor
  · intro h f hf
    cases f with
    | contentWord term => exact h _ (List.mem_filter.mpr ⟨hf, rfl⟩)
    | _ => exact hVideo _ hf
  · intro h f hf
    exact h f (List.mem_of_mem_filter hf)

end Catalog

end QuoteSearch
