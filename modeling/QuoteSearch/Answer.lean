import QuoteSearch.Catalog.Basic
import QuoteSearch.Filter
import QuoteSearch.Highlight
import QuoteSearch.Tab
import QuoteSearch.Timestamp

/-!
# Answers

What is shown of videos and quotes: quotes with a time to read, and in a search with their words
highlighted.
-/

namespace QuoteSearch

/-- A quote with its start time as a timestamp. -/
structure TimedQuote where
  id : Int
  time : String
  startSeconds : Float
  endSeconds : Float
  content : String
deriving DecidableEq

/-- A quote of a search result with its video; the content is HTML. -/
structure AnnotatedQuote where
  id : Int
  video : Video
  time : String
  startSeconds : Float
  endSeconds : Float
  content : String
deriving DecidableEq

/-- A video with its whole transcript. -/
structure VideoDetail where
  video : Video
  quotes : List TimedQuote
deriving DecidableEq

structure RandomQuote where
  video : Video
  quote : TimedQuote
deriving DecidableEq

/-- One page of a search. All the videos are on every page. -/
structure SearchPage where
  query : String
  sort : SortOrder
  videos : List Video
  quotes : List AnnotatedQuote
  totalQuoteMatches : Nat
  currentPage : UInt32
  totalPages : Nat
  activeTab : Tab
deriving DecidableEq

/-- One page of a list of videos. -/
structure VideoPage where
  videos : List Video
  page : UInt32
deriving DecidableEq

namespace Quote

def timed (q : Quote) : TimedQuote :=
  ⟨q.id, Timestamp.format (some q.startTime), q.startTime, q.endTime, q.content⟩

end Quote

namespace QuoteRow

def annotate (terms : List String) (row : QuoteRow) : AnnotatedQuote :=
  let q := row.quote
  { id := q.id
    video := row.video
    time := Timestamp.format (some q.startTime)
    startSeconds := q.startTime
    endSeconds := q.endTime
    content := Highlight.highlight q.content terms }

def toRandom (row : QuoteRow) : RandomQuote := ⟨row.video, row.quote.timed⟩

end QuoteRow

end QuoteSearch
