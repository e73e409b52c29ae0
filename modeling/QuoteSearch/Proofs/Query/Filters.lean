import QuoteSearch.Proofs.Catalog.Select
import QuoteSearch.Proofs.Query.NormalForm
import QuoteSearch.Store.Nesting

/-! # The filters of a query

What the filters of a query mean for videos and quotes, in terms of the query, and how many words
it may have for its conditions not to nest too deep for the store.
-/

namespace QuoteSearch

namespace Nesting

/-- The store takes conditions that nest so deep. -/
def Fits (n : Nesting) : Prop := n.written ≤ deepest ∧ n.resolved ≤ deepest

/-- Conditions on one quote of a video weigh twice, and without them only the number counts. -/
theorem fits_ofVideos_iff_counts {filters : List Filter} {onVideo onQuote : Nat}
    (hQuote : (Filter.ofKind .content filters).length = onQuote)
    (hLength : filters.length = onVideo + onQuote) :
    (ofVideos filters).Fits ↔
      if onQuote = 0 then onVideo ≤ 998 else onQuote ≤ 496 ∧ onVideo + onQuote ≤ 994 := by
  have hRest : filters.length - onQuote = onVideo := by omega
  simp only [ofVideos, hQuote, hRest, Fits, chain, single, deepest]
  by_cases hNone : onQuote = 0
  · simp only [hNone, if_true]
    split <;> omega
  · simp only [hNone, if_false, Nat.succ_ne_zero]
    by_cases hAlone : onVideo = 0
    · simp only [hAlone, if_true]
      omega
    · simp only [hAlone, if_false]
      split <;> omega

/-- With at most two conditions on the video itself it is the number of those on one of its quotes
that counts. -/
theorem fits_ofVideos_iff {filters : List Filter} {onVideo onQuote : Nat}
    (hQuote : (Filter.ofKind .content filters).length = onQuote)
    (hLength : filters.length = onVideo + onQuote) (hVideo : onVideo ≤ 2) :
    (ofVideos filters).Fits ↔ onQuote ≤ 496 := by
  rw [fits_ofVideos_iff_counts hQuote hLength]
  split <;> omega

end Nesting

namespace Query

/-- None of the patterns of the query is too large to search for. -/
def compiles (q : Query) : Bool := (q.videoFilters ++ q.quoteFilters).all Filter.compiles

/-- What the id and the title of a query ask of a video. -/
structure AcceptsVideo (q : Query) (v : Video) : Prop where
  videoId : ∀ id, q.videoId = some id → v.id = id
  title : ∀ title, q.title = some title → (WordPattern.word title).occursIn v.title = true

/-- What the terms of a query ask of the content of a quote. -/
def AcceptsContent (q : Query) (content : String) : Prop :=
  ∀ term ∈ q.contentTerms, (WordPattern.word term).occursIn content = true

variable {q : Query}

theorem compiles_videoFilters (h : q.compiles = true) : ∀ f ∈ q.videoFilters, f.compiles = true :=
  fun f hf => List.all_eq_true.mp h f (List.mem_append_left _ hf)

theorem compiles_quoteFilters (h : q.compiles = true) : ∀ f ∈ q.quoteFilters, f.compiles = true :=
  fun f hf => List.all_eq_true.mp h f (List.mem_append_right _ hf)

theorem contentTerms_of_isTagged (h : q.isTagged = true) : q.contentTerms = q.words := by
  rw [contentTerms, if_pos h]

theorem videoFilters_of_isTagged (h : q.isTagged = true) : q.videoFilters = q.taggedFilters := by
  rw [videoFilters, if_pos h]

theorem quoteFilters_of_isTagged (h : q.isTagged = true) : q.quoteFilters = q.taggedFilters := by
  rw [quoteFilters, if_pos h]

theorem forall_mem_taggedFilters {p : Filter → Prop} :
    (∀ f ∈ q.taggedFilters, p f) ↔ (∀ id, q.videoId = some id → p (.videoId id)) ∧
      (∀ title, q.title = some title → p (.titleWord title)) ∧
      ∀ term ∈ q.contentTerms, p (.contentWord term) := by
  simp only [taggedFilters, List.mem_append, List.mem_map, Option.mem_toList, or_imp, forall_and,
    and_assoc, forall_exists_index, and_imp, forall_apply_eq_imp_iff₂]

theorem contentWord_mem_taggedFilters {term : String} :
    Filter.contentWord term ∈ q.taggedFilters ↔ term ∈ q.contentTerms := by
  simp [taggedFilters]

theorem contentWord_mem_quoteFilters {term : String} :
    Filter.contentWord term ∈ q.quoteFilters ↔ term ∈ q.contentTerms := by
  cases hTagged : q.isTagged <;> simp [quoteFilters, taggedFilters, hTagged]

theorem fits_of_mem_contentTerms (h : q.compiles = true) {term : String} (hTerm : term ∈ q.contentTerms) :
    (WordPattern.word term).fits = true :=
  compiles_quoteFilters h _ (contentWord_mem_quoteFilters.mpr hTerm)

theorem taggedFilters_acceptVideo_iff {v : Video} :
    (∀ f ∈ q.taggedFilters, f.acceptsVideo v = true) ↔ q.AcceptsVideo v := by
  rw [forall_mem_taggedFilters]
  constructor
  · rintro ⟨hId, hTitle, -⟩
    exact ⟨fun id h => beq_iff_eq.mp (hId id h), hTitle⟩
  · rintro ⟨hId, hTitle⟩
    exact ⟨fun id h => beq_iff_eq.mpr (hId id h), hTitle, fun _ _ => rfl⟩

theorem taggedFilters_acceptRow_iff {row : QuoteRow} :
    (∀ f ∈ q.taggedFilters, f.acceptsRow row = true) ↔
      q.AcceptsVideo row.video ∧ q.AcceptsContent row.quote.content := by
  rw [forall_mem_taggedFilters]
  constructor
  · rintro ⟨hId, hTitle, hTerms⟩
    exact ⟨⟨fun id h => beq_iff_eq.mp (hId id h), hTitle⟩, hTerms⟩
  · rintro ⟨⟨hId, hTitle⟩, hTerms⟩
    exact ⟨fun id h => beq_iff_eq.mpr (hId id h), hTitle, hTerms⟩

theorem quoteFilters_acceptRow_iff {typed : String} {row : QuoteRow} :
    (∀ f ∈ (parse typed).quoteFilters, f.acceptsRow row = true) ↔
      (parse typed).AcceptsVideo row.video ∧ (parse typed).AcceptsContent row.quote.content := by
  cases hTagged : (parse typed).isTagged with
  | true => rw [quoteFilters_of_isTagged hTagged, taggedFilters_acceptRow_iff]
  | false =>
    obtain ⟨hId, hTitle, -⟩ := plain_of_not_isTagged hTagged
    have hVideo : (parse typed).AcceptsVideo row.video := ⟨by simp [hId], by simp [hTitle]⟩
    rw [quoteFilters, hTagged, if_neg Bool.false_ne_true, and_iff_right hVideo]
    exact List.forall_mem_map

/-- The most words that a query may have for the store to take its conditions. -/
def mostWords : Nat := 496

theorem length_taggedFilters (h : q.isTagged = true) :
    q.taggedFilters.length = q.videoId.toList.length + q.title.toList.length + q.words.length := by
  simp [taggedFilters, contentTerms_of_isTagged h, Nat.add_assoc]

theorem ofKind_map_contentWord (terms : List String) :
    Filter.ofKind .content (terms.map .contentWord) = terms.map .contentWord := by
  rw [Filter.ofKind, List.filter_eq_self]
  exact List.forall_mem_map.mpr fun _ _ => rfl

theorem ofKind_content_taggedFilters :
    Filter.ofKind .content q.taggedFilters = q.contentTerms.map .contentWord := by
  have hRest : Filter.ofKind .content (q.videoId.toList.map .videoId ++ q.title.toList.map .titleWord) = [] := by
    rw [Filter.ofKind, List.filter_eq_nil_iff]
    intro f hf
    rcases List.mem_append.mp hf with hf | hf
    · obtain ⟨_, -, rfl⟩ := List.mem_map.mp hf
      exact Bool.false_ne_true
    · obtain ⟨_, -, rfl⟩ := List.mem_map.mp hf
      exact Bool.false_ne_true
  rw [taggedFilters, Filter.ofKind, List.filter_append, ← Filter.ofKind, ← Filter.ofKind, hRest,
    ofKind_map_contentWord, List.nil_append]

theorem length_ofKind_taggedFilters (h : q.isTagged = true) :
    (Filter.ofKind .content q.taggedFilters).length = q.words.length := by
  rw [ofKind_content_taggedFilters, List.length_map, contentTerms_of_isTagged h]

theorem fits_ofVideos_taggedFilters (h : q.isTagged = true) :
    (Nesting.ofVideos q.taggedFilters).Fits ↔ q.words.length ≤ mostWords := by
  have hVideo : q.videoId.toList.length + q.title.toList.length ≤ 2 :=
    Nat.add_le_add Option.length_toList_le Option.length_toList_le
  exact Nesting.fits_ofVideos_iff (length_ofKind_taggedFilters h) (length_taggedFilters h) hVideo

theorem fits_ofVideos {typed : String} (h : (parse typed).words.length ≤ mostWords) :
    (Nesting.ofVideos (parse typed).videoFilters).Fits := by
  cases hTagged : (parse typed).isTagged with
  | true =>
    rw [videoFilters_of_isTagged hTagged]
    exact (fits_ofVideos_taggedFilters hTagged).mpr h
  | false =>
    rw [videoFilters, hTagged, if_neg Bool.false_ne_true]
    exact ⟨(by decide : 3 ≤ 1000), (by decide : 3 ≤ 1000)⟩

theorem fits_ofQuotes {typed : String} (h : (parse typed).words.length ≤ mostWords) :
    (Nesting.ofQuotes (parse typed).quoteFilters).Fits := by
  cases hTagged : (parse typed).isTagged with
  | true =>
    have hId : (parse typed).videoId.toList.length ≤ 1 := Option.length_toList_le
    have hTitle : (parse typed).title.toList.length ≤ 1 := Option.length_toList_le
    rw [mostWords] at h
    simp only [quoteFilters_of_isTagged hTagged, Nesting.ofQuotes, length_taggedFilters hTagged,
      Nesting.chain, Nesting.single, Nesting.Fits, Nesting.deepest]
    split <;> omega
  | false =>
    rw [quoteFilters, contentTerms, hTagged, if_neg Bool.false_ne_true, if_neg Bool.false_ne_true]
    exact ⟨(by decide : 3 ≤ 1000), (by decide : 4 ≤ 1000)⟩

end Query

end QuoteSearch
