import QuoteSearch.Answer
import QuoteSearch.Catalog.Json

/-!
# The JSON form of answers
-/

namespace QuoteSearch

open Json

namespace SortOrder

def toJson (s : SortOrder) : Json := .str s.name

def decode : Decoder SortOrder := fun doc =>
  (Decode.variant ["newest", "oldest"] doc).map fun name =>
    if name = "newest" then .newest else .oldest

end SortOrder

namespace Tab

def toJson (t : Tab) : Json := .str t.name

def decode : Decoder Tab := fun doc =>
  (Decode.variant ["Videos", "Quotes"] doc).map fun name =>
    if name = "Videos" then .videos else .quotes

end Tab

namespace TimedQuote

def members (q : TimedQuote) : List (String × Json) :=
  [("id", .int q.id), ("time", .str q.time), ("start_seconds", .float q.startSeconds),
    ("end_seconds", .float q.endSeconds), ("content", .str q.content)]

def toJson (q : TimedQuote) : Json := .obj q.members

def decode : Decoder TimedQuote :=
  Decode.struct "TimedQuote"
    [("id", Decode.check Decode.int64), ("time", Decode.check Decode.string),
      ("start_seconds", Decode.check Decode.float), ("end_seconds", Decode.check Decode.float),
      ("content", Decode.check Decode.string)]
    fun fields => do
      let id ← fields.get "id" Decode.int64
      let time ← fields.get "time" Decode.string
      let startSeconds ← fields.get "start_seconds" Decode.float
      let endSeconds ← fields.get "end_seconds" Decode.float
      let content ← fields.get "content" Decode.string
      return ⟨id, time, startSeconds, endSeconds, content⟩

end TimedQuote

namespace AnnotatedQuote

def toJson (q : AnnotatedQuote) : Json :=
  .obj [("id", .int q.id), ("video", q.video.toJson), ("time", .str q.time),
    ("start_seconds", .float q.startSeconds), ("end_seconds", .float q.endSeconds),
    ("content", .str q.content)]

def decode : Decoder AnnotatedQuote :=
  Decode.struct "AnnotatedQuote"
    [("id", Decode.check Decode.int64), ("video", Decode.check Video.decode),
      ("time", Decode.check Decode.string), ("start_seconds", Decode.check Decode.float),
      ("end_seconds", Decode.check Decode.float), ("content", Decode.check Decode.string)]
    fun fields => do
      let id ← fields.get "id" Decode.int64
      let video ← fields.get "video" Video.decode
      let time ← fields.get "time" Decode.string
      let startSeconds ← fields.get "start_seconds" Decode.float
      let endSeconds ← fields.get "end_seconds" Decode.float
      let content ← fields.get "content" Decode.string
      return ⟨id, video, time, startSeconds, endSeconds, content⟩

end AnnotatedQuote

namespace VideoDetail

def toJson (d : VideoDetail) : Json :=
  .obj [("video", d.video.toJson), ("quotes", .arr (d.quotes.map TimedQuote.toJson))]

def decodeQuotes : Decoder (List TimedQuote) := Decode.list TimedQuote.decode

def decode : Decoder VideoDetail :=
  Decode.struct "VideoDetail"
    [("video", Decode.check Video.decode), ("quotes", Decode.check decodeQuotes)]
    fun fields => do
      let video ← fields.get "video" Video.decode
      let quotes ← fields.get "quotes" decodeQuotes
      return ⟨video, quotes⟩

end VideoDetail

namespace RandomQuote

/-- The fields of the quote stand beside the video. -/
def toJson (r : RandomQuote) : Json := .obj (("video", r.video.toJson) :: r.quote.members)

/-- Containers in the members beside the video may be nested so deep. -/
def deepest : Nat := 127

/-- Walks the members: the video is read at once, all others are gathered for the quote. -/
def splitMembers (video : Option Video) (others : List (Token String × Document)) :
    List (Token String × Document) →
      Except DecodeFault (Option Video × List (Token String × Document))
  | [] => .ok (video, others)
  | (key, value) :: rest => do
    let name ← Decode.ofToken key
    if name = "video" then
      if video.isSome then throw (.duplicateField name)
      splitMembers (some (← Video.decode value)) others rest
    else
      Decode.raise ((Decode.inspect deepest value).map .grammar)
      splitMembers video (others ++ [(key, value)]) rest

def decode : Decoder RandomQuote
  | .record members stop => do
    let (video, others) ← splitMembers none [] members
    Decode.stopFault stop
    match video with
    | some video => return ⟨video, ← TimedQuote.decode (.record others none)⟩
    | none => throw (.missingField "video")
  | doc => Decode.mismatch "struct RandomQuote" doc

end RandomQuote

namespace SearchPage

def toJson (p : SearchPage) : Json :=
  .obj [("query", .str p.query), ("sort", p.sort.toJson),
    ("videos", .arr (p.videos.map Video.toJson)),
    ("quotes", .arr (p.quotes.map AnnotatedQuote.toJson)),
    ("total_quote_matches", .int p.totalQuoteMatches),
    ("current_page", .int p.currentPage.toNat), ("total_pages", .int p.totalPages),
    ("active_tab", p.activeTab.toJson)]

end SearchPage

namespace VideoPage

def toJson (p : VideoPage) : Json :=
  .obj [("videos", .arr (p.videos.map Video.toJson)), ("page", .int p.page.toNat)]

end VideoPage

end QuoteSearch
