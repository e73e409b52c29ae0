import QuoteSearch.Answer.Json
import QuoteSearch.Http.Route
import QuoteSearch.Search

/-!
# The interface

Every answer is an envelope with a code, which is also the status, a message, and the data of a
successful answer. Parameters are read leniently; only a parameter that is given twice is refused.
Pages of any origin may use the interface.
-/

namespace QuoteSearch.Http

def version : String := "0.1.0"

/-- What the interface serves. -/
structure App where
  service : SearchService
  /-- When the program was built. -/
  buildTime : String

def success (data : Json) : Response :=
  .ofBody 200 (.json (.obj [("code", .int 200), ("message", .str "success"), ("data", data)]))

def statusOf : SearchFault → Nat
  | .invalidInput _ => 400
  | .notFound _ => 404
  | .storeUnavailable _ => 503

/-- What a user is told of a fault; nothing of what happened within the store. -/
def publicMessage : SearchFault → String
  | .storeUnavailable _ => "store unavailable"
  | fault => fault.message

def failure (fault : SearchFault) : Response :=
  .ofBody (statusOf fault)
    (.json (.obj [("code", .int (statusOf fault)), ("message", .str (publicMessage fault))]))

def answer {α : Type} (toJson : α → Json) : SearchResult α → Response
  | .ok a => success (toJson a)
  | .error fault => failure fault

def refuse (reason : String) : Response := .ofBody 400 (.text reason)

/-- The given parameters among the known ones, or the name of one that is given twice. -/
def parameters (known : List String) (given : List (String × String)) :
    List (String × String) → Except String (List (String × String))
  | [] => .ok given
  | (name, value) :: rest =>
    if name ∉ known then parameters known given rest
    else if (given.lookup name).isSome then .error name
    else parameters known (given ++ [(name, value)]) rest

/-- Answers a request from its known parameters. -/
def withParameters (known : List String) (query : String)
    (respond : (String → Option String) → Response) : Response :=
  match parameters known [] (Text.formPairs query.toList) with
  | .ok given => respond fun name => given.lookup name
  | .error name => refuse ("Failed to deserialize query string: duplicate field `" ++ name ++ "`")

/-- The search that the parameters ask for. -/
def searchRequest (param : String → Option String) : SearchRequest :=
  { query := (param "search").getD ""
    sort := SortOrder.ofParam (param "sort")
    requestedTab := Tab.ofParam (param "active_tab")
    page := Page.numberOfParam (param "page") }

def searchParameters : List String := ["search", "sort", "active_tab", "page"]

def listParameters : List String := ["search", "sort", "page"]

def health (app : App) : Json :=
  .obj [("status", .str "ok"), ("version", .str version), ("build_time", .str app.buildTime),
    ("quotes_per_page", .int app.service.settings.quotesPerPage.toNat)]

def statsJson (counts : List (String × Nat)) : Json :=
  .obj (counts.map fun (name, count) => (name, .int count))

def videoResponse (app : App) (segment : List Char) (timing : Timing := .inOrder) : Response :=
  match Text.percentDecodeText segment with
  | .ok id => answer VideoDetail.toJson (app.service.videoDetail (String.ofList id) timing)
  | .error _ => refuse "Invalid URL: Invalid UTF-8 in `vod_id`"

/-- The answer to a request that gets a route. -/
def get (app : App) (query : String) (route : Route) (timing : Timing := .inOrder) : Response :=
  match route with
  | .health => success (health app)
  | .search =>
    withParameters searchParameters query fun param =>
      answer SearchPage.toJson (app.service.search (searchRequest param) timing)
  | .videos =>
    withParameters listParameters query fun param =>
      let request := searchRequest param
      answer VideoPage.toJson (app.service.listVideos request.query request.sort request.page)
  | .video segment => videoResponse app segment timing
  | .randomQuotes =>
    answer (fun quotes => .arr (quotes.map RandomQuote.toJson)) app.service.randomQuotes
  | .stats => answer statsJson app.service.wordStats

def allowHeader : List (String × String) := [("allow", "GET,HEAD")]

/-- The headers by which a page of another origin learns what it may ask for. -/
def preflightHeaders : List (String × String) :=
  [("access-control-allow-origin", "*"), ("access-control-allow-methods", "*"),
    ("access-control-allow-headers", "*")]

def sharingHeaders : List (String × String) :=
  [("access-control-allow-origin", "*"), ("access-control-expose-headers", "*")]

def respond (app : App) (request : Request) (timing : Timing := .inOrder) : Response :=
  let route := Route.ofPath request.path
  if request.method = "OPTIONS" then
    let response := (Response.ofBody 200 .empty).addHeaders preflightHeaders
    if route.isSome then response.addHeaders allowHeader else response
  else
    let response : Response := match route with
      | none => .ofBody 404 .empty
      | some route =>
        if request.method = "GET" then get app request.query route timing
        else if request.method = "HEAD" then (get app request.query route timing).withoutBody
        else (Response.ofBody 405 .empty).addHeaders allowHeader
    response.addHeaders sharingHeaders

end QuoteSearch.Http
