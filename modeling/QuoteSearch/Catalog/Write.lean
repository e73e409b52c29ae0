import QuoteSearch.Attempt
import QuoteSearch.Catalog.Basic
import QuoteSearch.Decimal.Quantity

/-!
# Writing to the catalogue

Videos and quotes are written one after the other. A quote that cannot be written ends the write; it
is for the store to take back what was written before.
-/

namespace QuoteSearch

/-- Why quotes cannot be written. -/
inductive WriteFault where
  | noStartTime
  | noEndTime
  | unknownVideo
deriving DecidableEq

namespace Catalog

/-- Replaces the video with the same id, or adds the video at the end. -/
def putVideo (video : Video) : List Video → List Video
  | [] => [video]
  | v :: rest => if v.id = video.id then video :: rest else v :: putVideo video rest

def upsertVideo (c : Catalog) (video : Video) : Catalog :=
  { c with videos := putVideo video c.videos }

/-- Writes videos one after the other, so that of several with one id the last one stays. -/
def upsertVideos (c : Catalog) (videos : List Video) : Catalog := videos.foldl upsertVideo c

/-- Adds a quote under the next number. A time that is no number is no time. -/
def insertQuote (c : Catalog) (videoId : String) (q : NewQuote) : Except WriteFault Catalog :=
  if Decimal.isNotANumber q.startTime then .error .noStartTime
  else if Decimal.isNotANumber q.endTime then .error .noEndTime
  else if (c.findVideo videoId).isNone then .error .unknownVideo
  else
    let number := c.lastQuote + 1
    let quote : Quote :=
      { id := number
        videoId
        startTime := Decimal.withoutNegativeZero q.startTime
        endTime := Decimal.withoutNegativeZero q.endTime
        content := q.content }
    .ok { c with quotes := c.quotes ++ [quote], lastQuote := number }

/-- Adds quotes in the order given, up to the first one that cannot be written. -/
def insertEach (c : Catalog) (videoId : String) : List NewQuote → Attempt WriteFault Catalog Unit
  | [] => ⟨.ok (), c⟩
  | q :: rest =>
    match c.insertQuote videoId q with
    | .error fault => ⟨.error fault, c⟩
    | .ok c' => c'.insertEach videoId rest

/-- The catalogue with quotes, if all of them can be written. -/
def insertQuotes (c : Catalog) (videoId : String) (quotes : List NewQuote) : Except WriteFault Catalog :=
  (c.insertEach videoId quotes).passed.map Prod.snd

end Catalog

end QuoteSearch
