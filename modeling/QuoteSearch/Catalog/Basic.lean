import QuoteSearch.Date

/-!
# The catalogue

Videos and the quotes of their transcripts. Every video has an id of its own, and every quote
belongs to a video of the catalogue and has a number that no other quote has or had.
-/

namespace QuoteSearch

structure Video where
  id : String
  title : String
  thumbnail : String
  uploadDate : Date
deriving DecidableEq

/-- One segment of a video's transcript. Times are seconds from the beginning of the video. -/
structure Quote where
  id : Int
  videoId : String
  startTime : Float
  endTime : Float
  content : String
deriving DecidableEq

/-- A segment before it has a number and a video. -/
structure NewQuote where
  startTime : Float
  endTime : Float
  content : String
deriving DecidableEq

/-- A quote with the video that it belongs to. -/
structure QuoteRow where
  video : Video
  quote : Quote
deriving DecidableEq

/-- The videos in the order in which they were first written, and the quotes in the order of
their numbers. -/
structure Catalog where
  videos : List Video
  quotes : List Quote
  /-- The number of the last quote that was written. -/
  lastQuote : Nat
deriving DecidableEq

namespace Catalog

def empty : Catalog := ⟨[], [], 0⟩

def findVideo (c : Catalog) (id : String) : Option Video := c.videos.find? fun v => v.id == id

end Catalog

end QuoteSearch
