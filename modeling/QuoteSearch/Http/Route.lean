import QuoteSearch.Http.Message

/-!
# Routes

The paths of the interface. A path matches character by character; only the last part of a video's
path is free, and it is not empty.
-/

namespace QuoteSearch.Http

inductive Route where
  | health
  | search
  | videos
  /-- The last part of the path as it was sent. -/
  | video (segment : List Char)
  | randomQuotes
  | stats
deriving DecidableEq

namespace Route

def videoPath : List Char := "/api/videos/".toList

def ofPath (path : String) : Option Route :=
  if path = "/api/health" then some .health
  else if path = "/api/search" then some .search
  else if path = "/api/videos" then some .videos
  else if path = "/api/random-quotes" then some .randomQuotes
  else if path = "/api/stats" then some .stats
  else if videoPath.isPrefixOf path.toList then
    let segment := path.toList.drop videoPath.length
    if segment.isEmpty || segment.contains '/' then none else some (.video segment)
  else none

end Route

end QuoteSearch.Http
