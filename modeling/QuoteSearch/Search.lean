import QuoteSearch.Answer
import QuoteSearch.Page
import QuoteSearch.Settings.Basic

/-!
# Searching

The operations that a user sees, over any store that can be read. An operation answers from exactly
what its reads return, and fails with the fault of the first read that fails. Some reads are under
way together; which of these fails first is a matter of time.
-/

namespace QuoteSearch

inductive SearchFault where
  /-- A setting or an argument was refused. -/
  | invalidInput (reason : String)
  /-- The store could not be read. -/
  | storeUnavailable (reason : String)
  /-- There is no video with this id. -/
  | notFound (videoId : String)
deriving DecidableEq

def SearchFault.message : SearchFault → String
  | .invalidInput reason => "invalid input: " ++ reason
  | .storeUnavailable reason => "store unavailable: " ++ reason
  | .notFound videoId => "video not found: " ++ videoId

abbrev SearchResult (α : Type) := Except SearchFault α

/-- Which of two reads that are under way together fails first, if both of them fail. -/
inductive Earlier where
  | left
  | right
deriving DecidableEq

/-- What two reads return that are under way together. -/
def Earlier.join {α β : Type} (earlier : Earlier) : SearchResult α → SearchResult β → SearchResult (α × β)
  | .ok a, .ok b => .ok (a, b)
  | .ok _, .error fault => .error fault
  | .error fault, .ok _ => .error fault
  | .error first, .error second =>
    match earlier with
    | .left => .error first
    | .right => .error second

/-- The order in which reads that are under way together fail. -/
structure Timing where
  /-- The videos of a search and its quotes. -/
  found : Earlier
  /-- The number of the quotes of a search and a page of them. -/
  quotes : Earlier
  /-- A video and its transcript. -/
  detail : Earlier
deriving DecidableEq

/-- Reads fail in the order in which they are begun. -/
def Timing.inOrder : Timing := ⟨.left, .left, .left⟩

/-- What can be read of a store. -/
structure Reads where
  listVideos : List Filter → SortOrder → SearchResult (List Video)
  listVideosPage : List Filter → SortOrder → Page → SearchResult (List Video)
  countQuotes : List Filter → SearchResult Nat
  listQuotes : List Filter → SortOrder → Page → SearchResult (List QuoteRow)
  findVideo : String → SearchResult (Option Video)
  /-- All quotes of a video by start time. -/
  quotesForVideo : String → SearchResult (List Quote)
  /-- Some quotes in any order, at most as many as asked for. -/
  randomQuotes : Nat → SearchResult (List QuoteRow)
  /-- The number of matches of a pattern in all quotes. -/
  countOccurrences : WordPattern → SearchResult Nat

structure SearchRequest where
  query : String
  sort : SortOrder
  requestedTab : Option Tab
  page : UInt32
deriving DecidableEq

/-- A store with settings under which a page holds something. -/
structure SearchService where
  reads : Reads
  settings : SearchSettings
  quotesPerPage_ne_zero : settings.quotesPerPage ≠ 0
  videosPerPage_ne_zero : settings.videosPerPage ≠ 0

namespace SearchService

def ofSettings (reads : Reads) (settings : SearchSettings) : SearchResult SearchService :=
  if hq : settings.quotesPerPage = 0 then
    .error (.invalidInput "quotes_per_page must be at least 1")
  else if hv : settings.videosPerPage = 0 then
    .error (.invalidInput "videos_per_page must be at least 1")
  else .ok ⟨reads, settings, hq, hv⟩

/-- Pages are counted from one. -/
def atLeastOne (page : UInt32) : UInt32 := if page = 0 then 1 else page

/-- The answer to an empty query: the whole catalogue and no quotes. -/
def browsed (request : SearchRequest) (videos : List Video) : SearchPage :=
  { query := ""
    sort := request.sort
    videos
    quotes := []
    totalQuoteMatches := 0
    currentPage := atLeastOne request.page
    totalPages := 1
    activeTab := Tab.choose request.requestedTab videos.length 0 }

def browse (s : SearchService) (request : SearchRequest) : SearchResult SearchPage := do
  let videos ← s.reads.listVideos [] request.sort
  return browsed request videos

/-- The answer to a query that is not empty, from what is found. -/
def shown (s : SearchService) (request : SearchRequest) (videos : List Video) (total : Nat)
    (rows : List QuoteRow) : SearchPage :=
  let typed := Text.trim request.query
  let page : Page := ⟨atLeastOne request.page, s.settings.quotesPerPage⟩
  { query := typed
    sort := request.sort
    videos
    quotes := rows.map (QuoteRow.annotate (Query.parse typed).highlightTerms)
    totalQuoteMatches := total
    currentPage := page.number
    totalPages := page.count total
    activeTab := Tab.choose request.requestedTab videos.length total }

def search (s : SearchService) (request : SearchRequest) (timing : Timing := .inOrder) :
    SearchResult SearchPage := do
  let typed := Text.trim request.query
  if typed = "" then s.browse request
  else
    let page : Page := ⟨atLeastOne request.page, s.settings.quotesPerPage⟩
    let query := Query.parse typed
    let (videos, total, rows) ← timing.found.join
      (s.reads.listVideos query.videoFilters request.sort)
      (timing.quotes.join (s.reads.countQuotes query.quoteFilters)
        (s.reads.listQuotes query.quoteFilters request.sort page))
    return s.shown request videos total rows

/-- The filters for videos with a word in their titles, or for all videos without a word. -/
def titleFilters (word : String) : List Filter :=
  let word := Text.trim word
  if word = "" then [] else [.titleWord word]

/-- One page of the videos with a word in their titles. -/
def listVideos (s : SearchService) (word : String) (sort : SortOrder) (page : UInt32) :
    SearchResult VideoPage := do
  let page : Page := ⟨atLeastOne page, s.settings.videosPerPage⟩
  let videos ← s.reads.listVideosPage (titleFilters word) sort page
  return ⟨videos, page.number⟩

/-- The answer to who opens a video, if there is one. -/
def opened (videoId : String) (quotes : List Quote) : Option Video → SearchResult VideoDetail
  | some video => .ok ⟨video, quotes.map Quote.timed⟩
  | none => .error (.notFound videoId)

def videoDetail (s : SearchService) (videoId : String) (timing : Timing := .inOrder) :
    SearchResult VideoDetail := do
  let (video, quotes) ← timing.detail.join (s.reads.findVideo videoId) (s.reads.quotesForVideo videoId)
  opened videoId quotes video

def randomQuotes (s : SearchService) : SearchResult (List RandomQuote) := do
  let rows ← s.reads.randomQuotes s.settings.randomQuoteCount.toNat
  return rows.map QuoteRow.toRandom

/-- The number of matches of a group's words. -/
def countGroup (s : SearchService) (words : List String) : SearchResult Nat :=
  match WordPattern.anyOf? words with
  | some pattern => s.reads.countOccurrences pattern
  | none => .ok 0

/-- Puts a count under its name, in the order of the names; a count that was there is replaced. -/
def putCount (name : String) (count : Nat) : List (String × Nat) → List (String × Nat)
  | [] => [(name, count)]
  | (n, k) :: rest =>
    if name < n then (name, count) :: (n, k) :: rest
    else if name = n then (name, count) :: rest
    else (n, k) :: putCount name count rest

/-- Puts what is read for each name under it, up to the first read that fails. -/
def countGroups (counts : List (String × Nat)) :
    List (String × SearchResult Nat) → SearchResult (List (String × Nat))
  | [] => .ok counts
  | (name, read) :: rest => do
    let count ← read
    countGroups (putCount name count counts) rest

/-- What is read for each group of words that is set. -/
def groupReads (s : SearchService) : List (String × SearchResult Nat) :=
  s.settings.wordGroups.map fun group => (group.name, s.countGroup group.words)

/-- The number of matches for each group of words that is set, by name. -/
def wordStats (s : SearchService) : SearchResult (List (String × Nat)) := countGroups [] s.groupReads

end SearchService

end QuoteSearch
