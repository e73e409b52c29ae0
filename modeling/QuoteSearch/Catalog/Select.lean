import QuoteSearch.Catalog.Order
import QuoteSearch.Pattern.Size

/-!
# Selecting from the catalogue

What filters mean for a video and for a quote, and the lists and counts of the catalogue that
they give. A pattern that is too large to search for makes a selection fail, but only once a row
is tested with it; conditions are tested from left to right, and a row that fails one is not
tested further.
-/

namespace QuoteSearch

/-- A row was to be tested with a pattern that is too large. -/
inductive SelectFault where
  | patternTooLarge
deriving DecidableEq

abbrev Selection (α : Type) := Except SelectFault α

namespace Filter

/-- Whether a term is a whole word of a text. -/
def testWord (term text : String) : Selection Bool :=
  let pattern := WordPattern.word term
  if pattern.fits then .ok (pattern.occursIn text) else .error .patternTooLarge

/-- Whether a video fulfils a filter; one on quotes asks nothing of the video itself. -/
def testVideo (v : Video) : Filter → Selection Bool
  | .videoId id => .ok (v.id == id)
  | .titleWord term => testWord term v.title
  | .contentWord _ => .ok true

/-- Whether a quote with its video fulfils a filter. -/
def testRow (row : QuoteRow) : Filter → Selection Bool
  | .contentWord term => testWord term row.quote.content
  | f => f.testVideo row.video

/-- Whether all conditions hold, tested up to the first that does not. -/
def all (test : Filter → Selection Bool) : List Filter → Selection Bool
  | [] => .ok true
  | f :: rest => do if ← test f then all test rest else return false

end Filter

/-- The entries that pass a test. -/
def select {α : Type} (test : α → Selection Bool) : List α → Selection (List α)
  | [] => .ok []
  | a :: rest => do
    let holds ← test a
    let kept ← select test rest
    return if holds then a :: kept else kept

/-- Whether an entry passes a test, tested up to the first that does. -/
def selectAny {α : Type} (test : α → Selection Bool) : List α → Selection Bool
  | [] => .ok false
  | a :: rest => do if ← test a then return true else selectAny test rest

namespace Catalog

/-- The quotes with their videos. -/
def rows (c : Catalog) : List QuoteRow :=
  c.quotes.filterMap fun q => (c.findVideo q.videoId).map fun v => ⟨v, q⟩

/-- The quotes of a video by start time. -/
def transcript (c : Catalog) (videoId : String) : List Quote :=
  sortQuotes (c.quotes.filter fun q => q.videoId == videoId)

/-- Whether a video fulfils the filters. Those on quotes have to hold together for one of its
quotes. -/
def testVideo (c : Catalog) (filters : List Filter) (v : Video) : Selection Bool := do
  if ← Filter.all (Filter.testVideo v) filters then
    if Filter.touchQuotes filters then
      selectAny (fun q => Filter.all (Filter.testRow ⟨v, q⟩) (Filter.ofKind .content filters))
        (c.transcript v.id)
    else return true
  else return false

def listVideos (c : Catalog) (filters : List Filter) (sort : SortOrder) :
    Selection (List Video) :=
  (select (c.testVideo filters) c.videos).map (sortVideos sort)

def selectRows (c : Catalog) (filters : List Filter) : Selection (List QuoteRow) :=
  select (fun row => Filter.all (Filter.testRow row) filters) c.rows

def countQuotes (c : Catalog) (filters : List Filter) : Selection Nat :=
  (c.selectRows filters).map List.length

def listQuotes (c : Catalog) (filters : List Filter) (sort : SortOrder) :
    Selection (List QuoteRow) :=
  (c.selectRows filters).map (sortRows sort)

/-- The number of matches of a pattern in the quotes that it is found in. -/
def countOccurrences (c : Catalog) (pattern : WordPattern) : Nat :=
  ((c.quotes.filter fun q => pattern.occursIn q.content).flatMap fun q =>
    pattern.spans q.content.toList).length

end Catalog

end QuoteSearch
