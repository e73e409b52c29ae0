import QuoteSearch.Filter

/-!
# How deep conditions nest

The store joins conditions pairwise from left to right, so each one adds a level, and a condition
on the quotes of a video encloses the conditions that it puts on a quote. Conditions that nest
deeper than `deepest` are refused: as they are written, before any table is looked for, and again
when each condition is resolved within those that enclose it.
-/

namespace QuoteSearch

/-- The levels of conditions as they are written and when they are resolved. -/
structure Nesting where
  written : Nat
  resolved : Nat
deriving DecidableEq

namespace Nesting

def none : Nesting := ⟨0, 0⟩

def deepest : Nat := 1000

/-- A single condition names a column of a table and compares it with a value. -/
def single : Nat := 3

/-- The levels of conditions that are joined. -/
def chain (count : Nat) : Nat := if count = 0 then 0 else single + (count - 1)

/-- Conditions on quotes are joined with the one that ties a quote to its video. -/
def ofQuotes (filters : List Filter) : Nesting :=
  ⟨chain filters.length, chain filters.length + 1⟩

/-- The conditions that one quote of a video has to fulfil, with the one that ties it to the
video, stand inside a condition on the video, which comes after those on the video itself. -/
def ofVideos (filters : List Filter) : Nesting :=
  let onQuotes := (Filter.ofKind .content filters).length
  let onVideo := chain (filters.length - onQuotes)
  if onQuotes = 0 then ⟨onVideo, onVideo⟩
  else
    let inner := chain (onQuotes + 1)
    let outer := if onVideo = 0 then inner + 1 else max onVideo (inner + 1) + 1
    ⟨outer, outer + inner⟩

end Nesting

end QuoteSearch
