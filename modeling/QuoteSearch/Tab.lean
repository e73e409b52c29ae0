/-!
# Result tabs

The results of a search are shown on two tabs, of which one is open. The tab that was asked for
is opened unless it is empty and the other one is not; without a request videos come first.
-/

namespace QuoteSearch

inductive Tab where
  | videos
  | quotes
deriving DecidableEq

namespace Tab

def name : Tab → String
  | .videos => "Videos"
  | .quotes => "Quotes"

/-- Only the exact names count as a request. -/
def ofParam : Option String → Option Tab
  | some "Videos" => some .videos
  | some "Quotes" => some .quotes
  | _ => none

/-- The tab to open, given the numbers of videos and of quotes that were found. -/
def choose (requested : Option Tab) (videoCount quoteCount : Nat) : Tab :=
  match requested with
  | some .quotes => if quoteCount = 0 ∧ 0 < videoCount then .videos else .quotes
  | some .videos | none => if videoCount = 0 ∧ 0 < quoteCount then .quotes else .videos

end Tab

end QuoteSearch
