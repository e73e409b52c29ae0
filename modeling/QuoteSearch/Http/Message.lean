import QuoteSearch.Json.Value
import QuoteSearch.Text.Percent

/-!
# Requests and responses

The parts of HTTP messages that matter to the interface: the method and the target of a request,
and the status, some headers and the body of a response.
-/

namespace QuoteSearch.Http

structure Request where
  method : String
  path : String
  query : String
deriving DecidableEq

namespace Request

/-- The path behind the scheme and the authority of an absolute target. -/
def originForm (target : List Char) : List Char :=
  match target with
  | '/' :: _ | ['*'] => target
  | _ =>
    let authority := (target.dropWhile (· != '/')).dropWhile (· == '/')
    match authority.dropWhile fun c => c != '/' && c != '?' with
    | '/' :: path => '/' :: path
    | query => '/' :: query

/-- The request for a target; what follows a number sign is not sent. -/
def ofTarget (method target : String) : Request :=
  let (target, _) := Text.cutAt '#' target.toList
  let (path, query) := Text.cutAt '?' (originForm target)
  ⟨method, String.ofList path, String.ofList (query.getD [])⟩

end Request

inductive Body where
  | empty
  | text (content : String)
  | json (content : Json)

structure Response where
  status : Nat
  headers : List (String × String)
  body : Body

namespace Body

/-- The name of the kind of content, if there is any. -/
def contentType? : Body → Option String
  | .empty => none
  | .text _ => some "text/plain; charset=utf-8"
  | .json _ => some "application/json"

end Body

namespace Response

/-- A response with a body and the header that names its kind. -/
def ofBody (status : Nat) (body : Body) : Response :=
  ⟨status, body.contentType?.toList.map fun kind => ("content-type", kind), body⟩

def header? (r : Response) (name : String) : Option String := r.headers.lookup name

def addHeaders (r : Response) (headers : List (String × String)) : Response :=
  { r with headers := r.headers ++ headers }

/-- The same response without its body, whose header stays. -/
def withoutBody (r : Response) : Response := { r with body := .empty }

end Response

end QuoteSearch.Http
