import QuoteSearch.Pattern.Basic
import QuoteSearch.Query

/-!
# Filters

A filter is one condition on a video or on a quote of a video, and a list of filters asks that
all of them hold. A query gives one list for videos and one for quotes.
-/

namespace QuoteSearch

/-- The order of results by upload date. -/
inductive SortOrder where
  | newest
  | oldest
deriving DecidableEq

namespace SortOrder

/-- A request that names no order means newest first; any other name means oldest first. -/
def ofParam : Option String → SortOrder
  | none => .newest
  | some param =>
    let name := Text.trim param
    if name = "" || name = "newest" then .newest else .oldest

def name : SortOrder → String
  | .newest => "newest"
  | .oldest => "oldest"

/-- The direction in which upload dates are sorted. -/
def direction : SortOrder → String
  | .newest => "DESC"
  | .oldest => "ASC"

/-- An order of dates, turned round when the newest come first. -/
def orient : SortOrder → Ordering → Ordering
  | .newest, o => o.swap
  | .oldest, o => o

end SortOrder

inductive FilterKind where
  | videoId
  | title
  | content
deriving DecidableEq

inductive Filter where
  /-- The video has this id. -/
  | videoId (id : String)
  /-- The term is a whole word of the video's title. -/
  | titleWord (term : String)
  /-- The term is a whole word of the quote. -/
  | contentWord (term : String)
deriving DecidableEq

namespace Filter

def kind : Filter → FilterKind
  | .videoId _ => .videoId
  | .titleWord _ => .title
  | .contentWord _ => .content

/-- The id that is asked for, or the written form of the pattern. -/
def value : Filter → String
  | .videoId id => id
  | .titleWord term | .contentWord term => (WordPattern.word term).text

def ofKind (kind : FilterKind) (filters : List Filter) : List Filter :=
  filters.filter fun f => f.kind == kind

/-- Whether a video cannot be judged by the filters without its quotes. -/
def touchQuotes (filters : List Filter) : Bool := filters.any fun f => f.kind == .content

end Filter

namespace Query

/-- The filters that a tagged query lays on videos and quotes alike. -/
def taggedFilters (q : Query) : List Filter :=
  q.videoId.toList.map .videoId ++ q.title.toList.map .titleWord ++
    q.contentTerms.map .contentWord

/-- A plain query looks for its text in titles. -/
def videoFilters (q : Query) : List Filter :=
  if q.isTagged then q.taggedFilters else [.titleWord q.raw]

/-- A plain query looks for its text in quotes. -/
def quoteFilters (q : Query) : List Filter :=
  if q.isTagged then q.taggedFilters else q.contentTerms.map .contentWord

end Query

end QuoteSearch
