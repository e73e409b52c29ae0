import QuoteSearch.Catalog.Basic
import QuoteSearch.Json.Decode

/-!
# The JSON form of the catalogue's entries
-/

namespace QuoteSearch

open Json

namespace Video

def toJson (v : Video) : Json :=
  .obj [("vod_id", .str v.id), ("title", .str v.title), ("thumbnail", .str v.thumbnail),
    ("upload_date", .str v.uploadDate.text)]

def decode : Decoder Video :=
  Decode.struct "Video"
    [("vod_id", Decode.check Decode.string), ("title", Decode.check Decode.string),
      ("thumbnail", Decode.check Decode.string), ("upload_date", Decode.check Decode.date)]
    fun fields => do
      let id ← fields.get "vod_id" Decode.string
      let title ← fields.get "title" Decode.string
      let thumbnail ← fields.get "thumbnail" Decode.string
      let uploadDate ← fields.get "upload_date" Decode.date
      return ⟨id, title, thumbnail, uploadDate⟩

end Video

namespace Quote

def toJson (q : Quote) : Json :=
  .obj [("id", .int q.id), ("vod_id", .str q.videoId), ("start_time", .float q.startTime),
    ("end_time", .float q.endTime), ("content", .str q.content)]

def decode : Decoder Quote :=
  Decode.struct "Quote"
    [("id", Decode.check Decode.int64), ("vod_id", Decode.check Decode.string),
      ("start_time", Decode.check Decode.float), ("end_time", Decode.check Decode.float),
      ("content", Decode.check Decode.string)]
    fun fields => do
      let id ← fields.get "id" Decode.int64
      let videoId ← fields.get "vod_id" Decode.string
      let startTime ← fields.get "start_time" Decode.float
      let endTime ← fields.get "end_time" Decode.float
      let content ← fields.get "content" Decode.string
      return ⟨id, videoId, startTime, endTime, content⟩

end Quote

namespace NewQuote

def toJson (q : NewQuote) : Json :=
  .obj [("start", .float q.startTime), ("end", .float q.endTime), ("text", .str q.content)]

def decode : Decoder NewQuote :=
  Decode.struct "NewQuote"
    [("start", Decode.check Decode.float), ("end", Decode.check Decode.float),
      ("text", Decode.check Decode.string)]
    fun fields => do
      let startTime ← fields.get "start" Decode.float
      let endTime ← fields.get "end" Decode.float
      let content ← fields.get "text" Decode.string
      return ⟨startTime, endTime, content⟩

end NewQuote

namespace QuoteRow

def toJson (row : QuoteRow) : Json :=
  .obj [("video", row.video.toJson), ("quote", row.quote.toJson)]

end QuoteRow

end QuoteSearch
