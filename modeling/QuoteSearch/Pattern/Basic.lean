import QuoteSearch.Text.Blank
import QuoteSearch.Text.WordChar
import QuoteSearch.Text.Folding

/-!
# Whole-word patterns

A pattern holds one or several literal terms. It is found in a text wherever one of its terms
stands, letter case aside, with a word beginning or ending at both ends of the stretch. Matches
are taken from left to right and do not overlap; where several terms stand at one place, the
first of them counts.

The written form of a pattern is an expression in which every character with a meaning of its
own carries a backslash.
-/

namespace QuoteSearch

/-- A stretch of a text: the position of its first character and the position after its last. -/
structure Span where
  start : Nat
  stop : Nat
deriving DecidableEq

namespace Span

def isEmpty (s : Span) : Bool := s.start == s.stop

def overlaps (a b : Span) : Bool := a.start < b.stop && b.start < a.stop

def slice (s : Span) (text : List Char) : List Char := (text.take s.stop).drop s.start

end Span

/-- How many bytes of the UTF-8 form of a text stand in front of each of its positions, when
`before` bytes stand in front of the text. -/
def byteOffsets (before : Nat) : List Char → List Nat
  | [] => [before]
  | c :: rest => before :: byteOffsets (before + c.utf8Size) rest

/-- Stretches of a text counted in bytes of its UTF-8 form. -/
def Span.toBytes (text : List Char) (spans : List Span) : List Span :=
  let offsets := (byteOffsets 0 text).toArray
  spans.map fun s => ⟨offsets.getD s.start 0, offsets.getD s.stop 0⟩

inductive WordPattern where
  | word (term : String)
  | anyOf (terms : List String)
deriving DecidableEq

namespace WordPattern

open Text

/-- The pattern for any of the terms that are not blank; `none` when all of them are. -/
def anyOf? (terms : List String) : Option WordPattern :=
  match (terms.map trim).filter (fun t => !t.isEmpty) with
  | [] => none
  | t :: ts => some (.anyOf (t :: ts))

def terms : WordPattern → List (List Char)
  | .word term => [term.toList]
  | .anyOf terms => terms.map String.toList

/-- Characters that are written with a backslash in front of them. -/
def isSpecial (c : Char) : Bool := "\\.+*?()|[]\x7b\x7d^$#&-~".toList.contains c

def literal (term : List Char) : List Char :=
  term.flatMap fun c => if isSpecial c then ['\\', c] else [c]

/-- The written form of a pattern. -/
def text : WordPattern → String
  | .word term => "(?i)\\b" ++ String.ofList (literal term.toList) ++ "\\b"
  | .anyOf terms =>
    "(?i)\\b(?:" ++ "|".intercalate (terms.map fun t => String.ofList (literal t.toList)) ++ ")\\b"

/-- Whether a term stands as a whole word where `rest` begins; `before` is the character in
front of it. -/
def standsAt (term : List Char) (before : Option Char) (rest : List Char) : Bool :=
  isBoundary before rest.head? && beginsWith term rest &&
    isBoundary ((rest.take term.length).getLast?.or before) (rest.drop term.length).head?

/-- The length of the first of the terms that stands where `rest` begins. -/
def lengthAt? (terms : List (List Char)) (before : Option Char) (rest : List Char) : Option Nat :=
  terms.findSome? fun term => if standsAt term before rest then some term.length else none

/-- The matches in the rest of a text. `position` counts the characters before the rest, and the
next `skip` of them belong to a match that was already taken. -/
def spansFrom (terms : List (List Char)) :
    (before : Option Char) → (position skip : Nat) → List Char → List Span
  | before, position, skip, [] =>
    if skip = 0 then
      (lengthAt? terms before []).toList.map fun n => ⟨position, position + n⟩
    else []
  | _, position, skip + 1, c :: rest => spansFrom terms (some c) (position + 1) skip rest
  | before, position, 0, c :: rest =>
    match lengthAt? terms before (c :: rest) with
    | some n => ⟨position, position + n⟩ :: spansFrom terms (some c) (position + 1) (n - 1) rest
    | none => spansFrom terms (some c) (position + 1) 0 rest

/-- All matches of a pattern, from left to right. -/
def spans (p : WordPattern) (text : List Char) : List Span := spansFrom p.terms none 0 0 text

def occursIn (p : WordPattern) (text : String) : Bool := !(p.spans text.toList).isEmpty

end WordPattern

end QuoteSearch
