import QuoteSearch.Proofs.Catalog.Select
import QuoteSearch.Proofs.Query.Filters
import QuoteSearch.Proofs.Store.History

/-! # What more a catalogue gives when it grows

Writing quotes takes nothing from what filters find, as long as they ask nothing of titles: a title
may be written again, and then a word that was found in it is found no more.
-/

namespace QuoteSearch

namespace Filter

/-- What a filter that asks nothing of titles asks of a quote. -/
def acceptsQuote (q : Quote) : Filter → Bool
  | .videoId id => q.videoId == id
  | .titleWord _ => true
  | .contentWord term => (WordPattern.word term).occursIn q.content

theorem acceptsRow_eq {f : Filter} (hTitle : f.kind ≠ .title) {row : QuoteRow}
    (hVideo : row.video.id = row.quote.videoId) : f.acceptsRow row = f.acceptsQuote row.quote := by
  cases f with
  | videoId id =>
    rw [acceptsRow, acceptsVideo, hVideo, acceptsQuote]
    rintro term ⟨⟩
  | titleWord term => exact absurd rfl hTitle
  | contentWord term => rfl

end Filter

theorem Query.kind_ne_title_of_mem_quoteFilters {q : Query} (h : q.title = none) :
    ∀ f ∈ q.quoteFilters, f.kind ≠ .title := by
  cases hTagged : q.isTagged with
  | true =>
    rw [quoteFilters_of_isTagged hTagged, forall_mem_taggedFilters, h]
    simp [Filter.kind]
  | false =>
    rw [quoteFilters, hTagged, if_neg Bool.false_ne_true, List.forall_mem_map]
    simp [Filter.kind]

namespace Catalog

variable {c c' : Catalog} {filters : List Filter} {sort : SortOrder}

theorem WellFormed.length_foundRows (h : c.WellFormed) (hTitle : ∀ f ∈ filters, f.kind ≠ .title) :
    (c.foundRows filters sort).length = c.quotes.countP fun q => filters.all (Filter.acceptsQuote q) := by
  have hRows : ∀ row ∈ c.rows, (filters.all (Filter.acceptsRow row) = true ↔
      filters.all (Filter.acceptsQuote row.quote) = true) := by
    intro row hRow
    have hVideo := ((findVideo_eq_some_iff h.ids).mp (mem_rows.mp hRow).2).2
    simp only [List.all_eq_true]
    exact forall₂_congr fun f hf => by rw [Filter.acceptsRow_eq (hTitle f hf) hVideo]
  rw [foundRows, (perm_sortRows sort _).length_eq, ← List.countP_eq_length_filter, List.countP_congr hRows,
    ← Function.comp_def (fun q => filters.all (Filter.acceptsQuote q)), ← List.countP_map, h.map_quote_rows]

theorem Extends.length_foundRows_le {ids : List String} {entries : List (String × NewQuote)}
    (h : c.Extends c' ids entries) (hEarlier : c.WellFormed) (hLater : c'.WellFormed)
    (hTitle : ∀ f ∈ filters, f.kind ≠ .title) :
    (c.foundRows filters sort).length ≤ (c'.foundRows filters sort).length := by
  rw [hEarlier.length_foundRows hTitle, hLater.length_foundRows hTitle, h.quotes, List.countP_append]
  exact Nat.le_add_right _ _

end Catalog

end QuoteSearch
