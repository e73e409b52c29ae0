import QuoteSearch.Text.Blank
import QuoteSearch.Text.Folding

/-!
# Typed queries

A query is free text with three optional tags, whose names may be typed in any letter case:

* `id:` and an id of eleven characters,
* `title:` and words up to the next semicolon,
* `word:` and a comma list up to the next semicolon.

Of each tag the first occurrence that has a value counts. A query that is nothing but an id that
could not be a plain word is taken as an id, and a comma without any tag makes the whole query a
comma list. Everything else is one plain term. Every text is a query.
-/

namespace QuoteSearch

open Text

structure Query where
  /-- The text as typed, without the blanks at its ends. -/
  raw : String
  videoId : Option String
  title : Option String
  /-- The words of a list in the order typed, repetitions kept. -/
  words : List String
  isTagged : Bool
deriving DecidableEq

namespace Query

def idLength : Nat := 11

def isAsciiAlnum (c : Char) : Bool :=
  ('a' ≤ c && c ≤ 'z') || ('A' ≤ c && c ≤ 'Z') || ('0' ≤ c && c ≤ '9')

def isBareIdChar (c : Char) : Bool := isAsciiAlnum c || c == '_' || c == '-'

/-- The characters of an id after its tag, in any letter case: the long s and the kelvin sign are
spellings of ASCII letters. -/
def isTaggedIdChar (c : Char) : Bool := isBareIdChar c || c == 'ſ' || c == '\u212a'

/-- The value of the first occurrence of a tag for which `value?` finds one. -/
def tagged? (tag : List Char) (value? : List Char → Option (List Char)) :
    List Char → Option (List Char)
  | [] => none
  | c :: rest =>
    let here := if beginsWith tag (c :: rest) then value? ((c :: rest).drop tag.length) else none
    here.or (tagged? tag value? rest)

/-- An id at the beginning of a text, blanks skipped. -/
def idValue? (rest : List Char) : Option (List Char) :=
  let id := (rest.dropWhile isBlank).take idLength
  if id.length = idLength && id.all isTaggedIdChar then some id else none

/-- The text up to the next semicolon, blanks skipped. If nothing but blanks stands there, the
last of them is the value; a value is never empty. -/
def freeValue? (rest : List Char) : Option (List Char) :=
  match (rest.dropWhile isBlank).takeWhile (· != ';') with
  | [] => (rest.takeWhile isBlank).getLast?.map ([·])
  | value => some value

/-- Whether a text is an id and not a plain word of that length. -/
def isBareId (raw : List Char) : Bool :=
  raw.length = idLength && raw.all isBareIdChar &&
    raw.any fun c => c.isDigit || c == '-' || c == '_'

/-- The items of a comma list without surrounding blanks; blank items are dropped. -/
def splitTerms (list : List Char) : List (List Char) :=
  ((list.splitOn ',').map trimBlanks).filter fun term => !term.isEmpty

def parse (typed : String) : Query :=
  let raw := trimBlanks typed.toList
  let id := (tagged? "id:".toList idValue? raw).or (if isBareId raw then some raw else none)
  let title := tagged? "title:".toList freeValue? raw
  let word := tagged? "word:".toList freeValue? raw
  let explicit := id.isSome || title.isSome || word.isSome
  let words := match word with
    | some list => splitTerms list
    | none => if !explicit && raw.contains ',' then splitTerms raw else []
  { raw := String.ofList raw
    videoId := id.map String.ofList
    title := ((title.map trimBlanks).filter fun t => !t.isEmpty).map String.ofList
    words := words.map String.ofList
    isTagged := explicit || raw.contains ',' }

/-- The terms that quotes have to contain. Quotes are found and highlighted by this one list. -/
def contentTerms (q : Query) : List String := if q.isTagged then q.words else [q.raw]

/-- The terms that are highlighted in quotes. -/
def highlightTerms (q : Query) : List String := q.contentTerms

end Query

end QuoteSearch
