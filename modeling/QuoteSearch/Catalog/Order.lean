import QuoteSearch.Catalog.Basic
import QuoteSearch.Decimal.Quantity
import QuoteSearch.Filter

/-!
# The order of results

Videos are ordered by the text of their upload dates, in either direction, and then by id. Quotes
follow their videos and are ordered by start time and number within a video. Texts are compared
character by character, which is also the order of their bytes.
-/

namespace QuoteSearch

namespace Video

def order (sort : SortOrder) (a b : Video) : Ordering :=
  (sort.orient (compare a.uploadDate.text b.uploadDate.text)).then (compare a.id b.id)

end Video

namespace Quote

/-- The order of the quotes of one video. -/
def order (a b : Quote) : Ordering :=
  (compare (Decimal.orderKey a.startTime) (Decimal.orderKey b.startTime)).then
    (compare a.id b.id)

end Quote

namespace QuoteRow

def order (sort : SortOrder) (a b : QuoteRow) : Ordering :=
  (Video.order sort a.video b.video).then (Quote.order a.quote b.quote)

end QuoteRow

def sortVideos (sort : SortOrder) (videos : List Video) : List Video :=
  videos.mergeSort fun a b => (Video.order sort a b).isLE

def sortQuotes (quotes : List Quote) : List Quote :=
  quotes.mergeSort fun a b => (Quote.order a b).isLE

def sortRows (sort : SortOrder) (rows : List QuoteRow) : List QuoteRow :=
  rows.mergeSort fun a b => (QuoteRow.order sort a b).isLE

end QuoteSearch
