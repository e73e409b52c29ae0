import QuoteSearch.Text.Digit

/-!
# Text in HTML

Escaping writes the five characters that mean something in HTML as character references. An
ampersand that already begins a well-formed reference stays as it is, so escaped text is not
escaped a second time.
-/

namespace QuoteSearch.Html

def isLetter (c : Char) : Bool := ('a' ≤ c && c ≤ 'z') || ('A' ≤ c && c ≤ 'Z')

def isHexDigit (c : Char) : Bool := (Text.hexValue? c).isSome

def isNameChar (c : Char) : Bool := isLetter c || Text.isDigit c

/-- The number of characters of a run of `class` that is at least `least` and at most `most`
long and is followed by a semicolon, the semicolon included. -/
def runLength? (isMember : Char → Bool) (least most : Nat) (text : List Char) : Option Nat :=
  let run := text.takeWhile isMember
  if least ≤ run.length && run.length ≤ most && (text.drop run.length).head? == some ';' then
    some (run.length + 1)
  else none

/-- The length of the character reference whose text after the ampersand begins here: a name of
two to 32 letters and digits that begins with a letter, up to seven decimal digits, or up to six
hexadecimal ones. -/
def referenceLength? : List Char → Option Nat
  | '#' :: 'x' :: rest | '#' :: 'X' :: rest => (runLength? isHexDigit 1 6 rest).map (· + 2)
  | '#' :: rest => (runLength? Text.isDigit 1 7 rest).map (· + 1)
  | c :: rest => if isLetter c then (runLength? isNameChar 1 31 rest).map (· + 1) else none
  | [] => none

/-- The escaped form of a character in front of `rest`. -/
def escapeChar (c : Char) (rest : List Char) : List Char :=
  if c = '&' then
    if (referenceLength? rest).isSome then ['&'] else "&amp;".toList
  else if c = '<' then "&lt;".toList
  else if c = '>' then "&gt;".toList
  else if c = '"' then "&quot;".toList
  else if c = '\'' then "&#x27;".toList
  else [c]

def escape : List Char → List Char
  | [] => []
  | c :: rest => escapeChar c rest ++ escape rest

def escapeText (text : String) : String := String.ofList (escape text.toList)

end QuoteSearch.Html
