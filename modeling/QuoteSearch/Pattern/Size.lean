import QuoteSearch.Pattern.Basic
import QuoteSearch.Text.Utf8

/-!
# The size of a pattern's matcher

Before a pattern is searched for it is turned into a matcher that reads bytes, and a matcher
may take at most ten mebibytes. A step of a matcher takes 32 bytes, and 8 more for each byte that
it can go on with when it has a choice. A character with one spelling is a step for each of its
bytes. A character with several is the tree of the byte sequences of its spellings, one step a
node, and a step that joins its leaves.
-/

namespace QuoteSearch

namespace WordPattern

open Text

def stepSize : Nat := 32

def choiceSize : Nat := 8

def sizeLimit : Nat := 10 * 1024 * 1024

/-- The proper beginnings of a byte sequence, the empty one included. -/
def beginnings : List Nat → List (List Nat)
  | [] => []
  | b :: rest => [] :: (beginnings rest).map (b :: ·)

/-- The size of the tree of some byte sequences: a step for each distinct proper beginning and
a choice for each distinct beginning but the empty one. -/
def treeSize (sequences : List (List Nat)) : Nat :=
  let nodes := (sequences.flatMap beginnings).eraseDups
  let edges := (nodes.filter (fun n => !n.isEmpty)).length + sequences.eraseDups.length
  nodes.length * stepSize + edges * choiceSize

/-- The part of a matcher that reads one character. -/
def characterSize (c : Char) : Nat :=
  match (spellings c.toNat).eraseDups with
  | [] | [_] => (utf8Bytes c.toNat).length * stepSize
  | points => stepSize + treeSize (points.map utf8Bytes)

/-- An approximation of what the library measures, which counts the steps of the characters going forward
and nothing else of the matcher: not what finds the boundaries of words, nor what joins the terms. -/
def matcherSize (p : WordPattern) : Nat :=
  p.terms.flatten.foldl (fun size c => size + characterSize c) 0

/-- No character takes as much as this. -/
def characterBound : Nat := 512

/-- Whether the matcher keeps within the limit; short patterns need not be measured. -/
def fits (p : WordPattern) : Bool :=
  p.terms.flatten.length * characterBound ≤ sizeLimit || p.matcherSize ≤ sizeLimit

/-- What is reported of a pattern that does not fit. -/
def sizeMessage : String := s!"Compiled regex exceeds size limit of {sizeLimit} bytes."

end WordPattern

end QuoteSearch
