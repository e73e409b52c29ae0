import QuoteSearch.Html
import QuoteSearch.Pattern.Size

/-!
# Highlighting

The whole-word matches of some terms are marked in a text, which is escaped piece by piece, so
the marks are the only markup of the result. Terms claim stretches of the text in the order
given: a match that overlaps a stretch claimed before is dropped.
-/

namespace QuoteSearch.Highlight

def markOpen : String := "<span class=\"highlight\">"

def markClose : String := "</span>"

/-- Adds the matches that are not empty and overlap nothing claimed so far. -/
def claim (claimed found : List Span) : List Span :=
  found.foldl (fun taken m => if m.isEmpty || taken.any m.overlaps then taken else taken ++ [m])
    claimed

/-- The matches of a term. A blank term has none, nor has one that is too large to search for. -/
def termSpans (content : List Char) (term : String) : List Span :=
  let pattern := WordPattern.word term
  if (Text.trim term).isEmpty || !pattern.fits then [] else pattern.spans content

/-- The stretches to mark, in the order in which they were claimed. -/
def claims (content : List Char) (terms : List String) : List Span :=
  terms.foldl (fun claimed term => claim claimed (termSpans content term)) []

/-- The stretches to mark, from left to right. -/
def markedSpans (content : List Char) (terms : List String) : List Span :=
  (claims content terms).mergeSort fun a b => a.start ≤ b.start

inductive Piece where
  | plain (text : List Char)
  | marked (text : List Char)
deriving DecidableEq

namespace Piece

def text : Piece → List Char
  | plain text | marked text => text

def render : Piece → List Char
  | plain text => Html.escape text
  | marked text => markOpen.toList ++ Html.escape text ++ markClose.toList

end Piece

/-- Cuts a text, of which `position` characters are already dealt with, along stretches that are
given from left to right. -/
def cut (position : Nat) (content : List Char) : List Span → List Piece
  | [] => [.plain content]
  | s :: rest =>
    let inside := content.drop (s.start - position)
    let size := s.stop - s.start
    .plain (content.take (s.start - position)) :: .marked (inside.take size) ::
      cut s.stop (inside.drop size) rest

def pieces (content : List Char) (terms : List String) : List Piece :=
  cut 0 content (markedSpans content terms)

def highlightChars (content : List Char) (terms : List String) : List Char :=
  (pieces content terms).flatMap Piece.render

def highlight (content : String) (terms : List String) : String :=
  String.ofList (highlightChars content.toList terms)

end QuoteSearch.Highlight
