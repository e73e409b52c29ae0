import QuoteSearch.Catalog.Order
import QuoteSearch.Proofs.Sorted

/-! # The order of results is total

The comparisons of videos, quotes and rows are total preorders, and they tell apart videos of
different ids and quotes of different numbers. Results of different ids or numbers are therefore
strictly sorted, and their order is determined.
-/

namespace QuoteSearch

open Std

namespace Video

def dateOrder (sort : SortOrder) (a b : Video) : Ordering :=
  sort.orient (compare a.uploadDate.text b.uploadDate.text)

instance (sort : SortOrder) : TransCmp (dateOrder sort) := by
  have hOldest : TransCmp (compareOn fun v : Video => v.uploadDate.text) := inferInstance
  cases sort with
  | oldest => exact hOldest
  | newest =>
    have hSwap : dateOrder .newest = fun a b => compareOn (fun v : Video => v.uploadDate.text) b a := by
      funext a b
      exact OrientedCmp.eq_swap.symm
    rw [hSwap]
    exact TransCmp.opposite

instance (sort : SortOrder) : TransCmp (order sort) :=
  inferInstanceAs (TransCmp (compareLex (dateOrder sort) (compareOn Video.id)))

theorem id_eq_of_order_eq {sort : SortOrder} {a b : Video} (h : order sort a b = .eq) : a.id = b.id :=
  LawfulEqOrd.eq_of_compare (Ordering.then_eq_eq.mp h).2

end Video

namespace Quote

instance : TransCmp order :=
  inferInstanceAs (TransCmp (compareLex (compareOn fun q : Quote => Decimal.orderKey q.startTime)
    (compareOn Quote.id)))

theorem id_eq_of_order_eq {a b : Quote} (h : order a b = .eq) : a.id = b.id :=
  LawfulEqOrd.eq_of_compare (Ordering.then_eq_eq.mp h).2

end Quote

namespace QuoteRow

instance (sort : SortOrder) : TransCmp (order sort) :=
  have : TransCmp fun a b : QuoteRow => Video.order sort a.video b.video := transCmp_comap QuoteRow.video
  have : TransCmp fun a b : QuoteRow => Quote.order a.quote b.quote := transCmp_comap QuoteRow.quote
  inferInstanceAs (TransCmp (compareLex (fun a b : QuoteRow => Video.order sort a.video b.video)
    fun a b => Quote.order a.quote b.quote))

theorem video_order_isLE {sort : SortOrder} {a b : QuoteRow} (h : (order sort a b).isLE = true) :
    (Video.order sort a.video b.video).isLE = true := Ordering.isLE_left_of_isLE_then h

theorem quote_id_eq_of_order_eq {sort : SortOrder} {a b : QuoteRow} (h : order sort a b = .eq) :
    a.quote.id = b.quote.id := Quote.id_eq_of_order_eq (Ordering.then_eq_eq.mp h).2

end QuoteRow

theorem perm_sortVideos (sort : SortOrder) (videos : List Video) :
    (sortVideos sort videos).Perm videos := List.mergeSort_perm _ _

theorem perm_sortQuotes (quotes : List Quote) : (sortQuotes quotes).Perm quotes :=
  List.mergeSort_perm _ _

theorem perm_sortRows (sort : SortOrder) (rows : List QuoteRow) :
    (sortRows sort rows).Perm rows := List.mergeSort_perm _ _

theorem sortVideos_pairwise_lt (sort : SortOrder) {videos : List Video}
    (h : (videos.map Video.id).Nodup) :
    (sortVideos sort videos).Pairwise fun a b => Video.order sort a b = .lt := by
  have hId : ∀ a b, Video.order sort a b = .eq → a.id = b.id := fun _ _ => Video.id_eq_of_order_eq
  rw [sortVideos]
  exact mergeSort_pairwise_lt hId h

theorem sortQuotes_pairwise_lt {quotes : List Quote} (h : (quotes.map Quote.id).Nodup) :
    (sortQuotes quotes).Pairwise fun a b => Quote.order a b = .lt := by
  have hId : ∀ a b, Quote.order a b = .eq → a.id = b.id := fun _ _ => Quote.id_eq_of_order_eq
  rw [sortQuotes]
  exact mergeSort_pairwise_lt hId h

theorem sortRows_pairwise_lt (sort : SortOrder) {rows : List QuoteRow}
    (h : (rows.map fun row => row.quote.id).Nodup) :
    (sortRows sort rows).Pairwise fun a b => QuoteRow.order sort a b = .lt := by
  have hId : ∀ a b, QuoteRow.order sort a b = .eq → a.quote.id = b.quote.id :=
    fun _ _ => QuoteRow.quote_id_eq_of_order_eq
  rw [sortRows]
  exact mergeSort_pairwise_lt hId h

end QuoteSearch
