import QuoteSearch.Decimal.Shortest

/-!
# JSON values and their text

A value is written in one line or indented by two blanks a level. A text is written with the
escapes that JSON requires and no others, whole numbers without and floats with a point or an
exponent; a float that is no finite number is written `null`.
-/

namespace QuoteSearch

inductive Json where
  | null
  | bool (b : Bool)
  | int (n : Int)
  | float (x : Float)
  | str (s : String)
  | arr (items : List Json)
  | obj (members : List (String × Json))

namespace Json

def hexDigit (n : Nat) : Char := (Nat.digitChar n)

/-- The written form of a character inside quotes. -/
def escapeChar (c : Char) : List Char :=
  if c = '"' then ['\\', '"']
  else if c = '\\' then ['\\', '\\']
  else if c = '\n' then ['\\', 'n']
  else if c = '\r' then ['\\', 'r']
  else if c = '\t' then ['\\', 't']
  else if c = '\x08' then ['\\', 'b']
  else if c = '\x0c' then ['\\', 'f']
  else if c.toNat < 0x20 then
    ['\\', 'u', '0', '0', hexDigit (c.toNat / 16), hexDigit (c.toNat % 16)]
  else [c]

def quoted (s : List Char) : List Char := '"' :: s.flatMap escapeChar ++ ['"']

/-- The text of a value that is neither an array nor an object. -/
def scalarText : Json → List Char
  | .null => "null".toList
  | .bool b => (if b then "true" else "false").toList
  | .int n => Decimal.intText n
  | .float x => (Decimal.text? x).getD "null".toList
  | .str s => quoted s.toList
  | .arr _ | .obj _ => []

/-- Puts a separator between texts. -/
def joined (separator : List Char) : List (List Char) → List Char
  | [] => []
  | [text] => text
  | text :: rest => text ++ separator ++ joined separator rest

def openBrace : Char := '\x7b'

def closeBrace : Char := '\x7d'

mutual

/-- The text of a value in one line without blanks. -/
def compactChars : Json → List Char
  | .arr items => '[' :: joined [','] (compactItems items) ++ [']']
  | .obj members => openBrace :: joined [','] (compactMembers members) ++ [closeBrace]
  | .null => scalarText .null
  | .bool b => scalarText (.bool b)
  | .int n => scalarText (.int n)
  | .float x => scalarText (.float x)
  | .str s => scalarText (.str s)

def compactItems : List Json → List (List Char)
  | [] => []
  | item :: rest => compactChars item :: compactItems rest

def compactMembers : List (String × Json) → List (List Char)
  | [] => []
  | (key, value) :: rest => (quoted key.toList ++ ':' :: compactChars value) :: compactMembers rest

end

def compact (value : Json) : String := String.ofList value.compactChars

/-- A line break and the indentation of a level. -/
def newLine (level : Nat) : List Char := '\n' :: List.replicate (2 * level) ' '

/-- Lays texts out one a line between brackets; without any there is no line break. -/
def block (left right : Char) (level : Nat) : List (List Char) → List Char
  | [] => [left, right]
  | texts =>
    left :: newLine (level + 1) ++ joined (',' :: newLine (level + 1)) texts ++
      newLine level ++ [right]

mutual

/-- The indented text of a value that stands on a level. -/
def prettyChars (level : Nat) : Json → List Char
  | .arr items => block '[' ']' level (prettyItems (level + 1) items)
  | .obj members => block openBrace closeBrace level (prettyMembers (level + 1) members)
  | .null => scalarText .null
  | .bool b => scalarText (.bool b)
  | .int n => scalarText (.int n)
  | .float x => scalarText (.float x)
  | .str s => scalarText (.str s)

def prettyItems (level : Nat) : List Json → List (List Char)
  | [] => []
  | item :: rest => prettyChars level item :: prettyItems level rest

def prettyMembers (level : Nat) : List (String × Json) → List (List Char)
  | [] => []
  | (key, value) :: rest =>
    (quoted key.toList ++ ':' :: ' ' :: prettyChars level value) :: prettyMembers level rest

end

def pretty (value : Json) : String := String.ofList (value.prettyChars 0)

end Json

end QuoteSearch
