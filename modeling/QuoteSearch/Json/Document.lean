import QuoteSearch.Json.Number

/-!
# JSON texts

A text is read into a document: a tree of what is written, in which the place where the text
stops being JSON is kept as part of the tree. Whoever walks a document in the order of the text
meets a fault exactly where it stands, and never meets it if the walk ends before.

A part of a text may be of no interest to the reader and is then only skimmed. Skimming is more
lenient: numbers may be of any size and the code units named in a text need not make sense. So a
faulty place holds two faults, one for those who read it and one for those who skim it.
-/

namespace QuoteSearch.Json

inductive GrammarFault where
  | eofInList
  | eofInObject
  | eofInString
  | eofInValue
  | expectedColon
  | expectedListEnd
  | expectedObjectEnd
  | expectedIdent
  | expectedValue
  | invalidEscape
  | invalidNumber
  | numberOutOfRange
  | controlCharacter
  | keyNotString
  | loneSurrogate
  | unfinishedSurrogate
  | trailingComma
  | trailingCharacters
  | tooDeep
deriving DecidableEq

def GrammarFault.message : GrammarFault → String
  | .eofInList => "EOF while parsing a list"
  | .eofInObject => "EOF while parsing an object"
  | .eofInString => "EOF while parsing a string"
  | .eofInValue => "EOF while parsing a value"
  | .expectedColon => "expected `:`"
  | .expectedListEnd => "expected `,` or `]`"
  | .expectedObjectEnd => "expected `,` or `\x7d`"
  | .expectedIdent => "expected ident"
  | .expectedValue => "expected value"
  | .invalidEscape => "invalid escape"
  | .invalidNumber => "invalid number"
  | .numberOutOfRange => "number out of range"
  | .controlCharacter => "control character (\\u0000-\\u001F) found while parsing a string"
  | .keyNotString => "key must be a string"
  | .loneSurrogate => "lone leading surrogate in hex escape"
  | .unfinishedSurrogate => "unexpected end of hex escape"
  | .trailingComma => "trailing comma"
  | .trailingCharacters => "trailing characters"
  | .tooDeep => "recursion limit exceeded"

/-- Where the text stops being JSON. -/
structure Break where
  /-- The fault for those who read the place. -/
  read : GrammarFault
  /-- The fault for those who skim it. -/
  skim : GrammarFault
deriving DecidableEq

def Break.both (fault : GrammarFault) : Break := ⟨fault, fault⟩

/-- A part that can be skimmed, and read unless it holds a fault. -/
abbrev Token (α : Type) := Except GrammarFault α

/-- A value as it is written. A `stop` behind the items or members is the place where the text
stops being JSON; without it the closing bracket was found. -/
inductive Document where
  | null
  | bool (b : Bool)
  | number (token : Token Number)
  | string (token : Token String)
  | list (items : List Document) (stop : Option Break)
  | record (members : List (Token String × Document)) (stop : Option Break)
  | broken (place : Break)
  /-- The text ends where a value should begin. -/
  | ended

namespace Document

open Text

def isGap (c : Char) : Bool := c == ' ' || c == '\n' || c == '\t' || c == '\r'

def skipGaps (text : List Char) : List Char := text.dropWhile isGap

/-- A document and the text behind it; there is none behind a break. -/
abbrev Reading := Document × Option (List Char)

def stopped (b : Break) : Reading := (.broken b, none)

/-- Reads the rest of a word of which the first letter was seen. -/
def readWord (value : Document) : (word text : List Char) → Reading
  | [], text => (value, some text)
  | _ :: _, [] => stopped (.both .eofInValue)
  | w :: word, c :: text =>
    if c = w then readWord value word text else stopped (.both .expectedIdent)

/-- A number breaks off where a digit is missing. -/
def missingDigit (rest : List Char) : Reading :=
  stopped (if rest.isEmpty then ⟨.eofInValue, .invalidNumber⟩ else .both .invalidNumber)

/-- Reads the exponent of a number, if there is one, and puts the number together. -/
def readExponent (isNegative : Bool) (before : List Char) (behind : Option (List Char))
    (text : List Char) : Reading :=
  let finish (exponent : Option Int) (rest : List Char) : Reading :=
    let isWhole := behind.isNone && exponent.isNone
    let number := Number.ofParts? isNegative before (behind.getD []) isWhole (exponent.getD 0)
    (.number (number.elim (.error .numberOutOfRange) .ok), some rest)
  let digits (sign : Int) (text : List Char) : Reading :=
    let exponent := text.takeWhile isDigit
    if exponent.isEmpty then missingDigit text
    else
      finish (some (sign * naturalOf exponent)) (text.drop exponent.length)
  match text with
  | 'e' :: '+' :: rest | 'E' :: '+' :: rest => digits 1 rest
  | 'e' :: '-' :: rest | 'E' :: '-' :: rest => digits (-1) rest
  | 'e' :: rest | 'E' :: rest => digits 1 rest
  | rest => finish none rest

/-- Reads what follows the digits before the point. -/
def readFraction (isNegative : Bool) (before text : List Char) : Reading :=
  match text with
  | '.' :: rest =>
    let behind := rest.takeWhile isDigit
    if behind.isEmpty then missingDigit rest
    else readExponent isNegative before (some behind) (rest.drop behind.length)
  | rest => readExponent isNegative before none rest

/-- Reads a number behind its sign. A zero in front of other digits is not allowed. -/
def readNumber (isNegative : Bool) (text : List Char) : Reading :=
  match text with
  | '0' :: rest =>
    if rest.head?.any isDigit then stopped (.both .invalidNumber)
    else readFraction isNegative ['0'] rest
  | rest =>
    let before := rest.takeWhile isDigit
    if before.isEmpty then missingDigit rest
    else readFraction isNegative before (rest.drop before.length)

/-- The code unit spelled by four hexadecimal digits. -/
def unit? (a b c d : Char) : Option Nat := do
  let a ← hexValue? a
  let b ← hexValue? b
  let c ← hexValue? c
  let d ← hexValue? d
  return a * 4096 + b * 256 + c * 16 + d

/-- Without four bytes left the text has ended; otherwise something other than a digit is there. -/
def brokenUnit (rest : List Char) : GrammarFault :=
  if (rest.take 4).foldl (fun size c => size + c.utf8Size) 0 < 4 then .eofInString else .invalidEscape

def isLeading (unit : Nat) : Bool := 0xD800 ≤ unit && unit ≤ 0xDBFF

def isTrailing (unit : Nat) : Bool := 0xDC00 ≤ unit && unit ≤ 0xDFFF

/-- What was read of a text inside quotes: the characters in reverse order, and a leading code
unit that waits for its trailing one. -/
structure Scanned where
  reversed : List Char
  leading : Option Nat

abbrev Scan := Token Scanned

/-- Takes a character. A leading code unit may only be followed by an escape. -/
def Scan.push (scan : Scan) (c : Char) : Scan := do
  let s ← scan
  if s.leading.isSome then throw .unfinishedSurrogate
  return { s with reversed := c :: s.reversed }

def Scan.pushUnit (scan : Scan) (unit : Nat) : Scan := do
  let s ← scan
  match s.leading with
  | some first =>
    if isTrailing unit then
      let point := (first - 0xD800) * 0x400 + (unit - 0xDC00) + 0x10000
      return ⟨Char.ofNat point :: s.reversed, none⟩
    else throw .loneSurrogate
  | none =>
    if isTrailing unit then throw .loneSurrogate
    else if isLeading unit then return ⟨s.reversed, some unit⟩
    else return ⟨Char.ofNat unit :: s.reversed, none⟩

def Scan.finish (scan : Scan) : Token String := do
  let s ← scan
  if s.leading.isSome then throw .unfinishedSurrogate
  return String.ofList s.reversed.reverse

/-- The fault for readers is the first one, the fault for skimmers is the given one. -/
def Scan.stop (scan : Scan) (fault : GrammarFault) : Break :=
  match scan with
  | .error first => ⟨first, fault⟩
  | .ok _ => .both fault

def escaped? (c : Char) : Option Char :=
  if c = '"' ∨ c = '\\' ∨ c = '/' then some c
  else if c = 'b' then some '\x08'
  else if c = 'f' then some '\x0c'
  else if c = 'n' then some '\n'
  else if c = 'r' then some '\r'
  else if c = 't' then some '\t'
  else none

/-- Reads a text behind its opening quote. -/
def readText (scan : Scan) : List Char → Except Break (Token String × List Char)
  | [] => .error (scan.stop .eofInString)
  | '"' :: rest => .ok (scan.finish, rest)
  | ['\\'] => .error (scan.stop .eofInString)
  | '\\' :: 'u' :: a :: b :: c :: d :: rest =>
    match unit? a b c d with
    | some unit => readText (scan.pushUnit unit) rest
    | none => .error (scan.stop (brokenUnit [a, b, c, d]))
  | '\\' :: 'u' :: rest => .error (scan.stop (brokenUnit rest))
  | '\\' :: c :: rest =>
    match escaped? c with
    | some e => readText (scan.push e) rest
    | none =>
      let waiting := match scan with
        | .ok s => s.leading.isSome
        | .error _ => false
      .error (if waiting then ⟨.unfinishedSurrogate, .invalidEscape⟩ else scan.stop .invalidEscape)
  | c :: rest =>
    if c.toNat < 0x20 then
      .error ((Scan.push scan c).stop .controlCharacter)
    else readText (scan.push c) rest

def newScan : Scan := .ok ⟨[], none⟩

def leftBrace : Char := '\x7b'

def rightBrace : Char := '\x7d'

mutual

/-- Reads a value. No value is nested deeper than its text is long. -/
def readValue : (fuel : Nat) → List Char → Reading
  | 0, _ => stopped (.both .eofInValue)
  | fuel + 1, text =>
    match skipGaps text with
    | [] => (.ended, none)
    | 'n' :: rest => readWord .null "ull".toList rest
    | 't' :: rest => readWord (.bool true) "rue".toList rest
    | 'f' :: rest => readWord (.bool false) "alse".toList rest
    | '-' :: rest => readNumber true rest
    | '"' :: rest =>
      match readText newScan rest with
      | .ok (token, rest) => (.string token, some rest)
      | .error b => stopped b
    | '[' :: rest => readFirstItem fuel rest
    | c :: rest =>
      if isDigit c then readNumber false (c :: rest)
      else if c = leftBrace then readFirstMember fuel rest
      else stopped (.both .expectedValue)

/-- Reads the items of a list behind its opening bracket. -/
def readFirstItem : (fuel : Nat) → List Char → Reading
  | 0, _ => stopped (.both .eofInValue)
  | fuel + 1, text =>
    match skipGaps text with
    | [] => (.list [] (some (.both .eofInList)), none)
    | ']' :: rest => (.list [] none, some rest)
    | rest =>
      let (items, stop, rest) := readItems fuel rest
      (.list items stop, rest)

/-- Reads an item and those that follow it. -/
def readItems : (fuel : Nat) → List Char → List Document × Option Break × Option (List Char)
  | 0, _ => ([], some (.both .eofInValue), none)
  | fuel + 1, text =>
    match readValue fuel text with
    | (item, none) => ([item], none, none)
    | (item, some rest) =>
      match skipGaps rest with
      | [] => ([item], some (.both .eofInList), none)
      | ']' :: rest => ([item], none, some rest)
      | ',' :: rest =>
        match skipGaps rest with
        | [] => ([item], some (.both .eofInValue), none)
        | ']' :: _ => ([item], some ⟨.trailingComma, .expectedValue⟩, none)
        | rest =>
          let (items, stop, rest) := readItems fuel rest
          (item :: items, stop, rest)
      | _ => ([item], some (.both .expectedListEnd), none)

/-- Reads the members of a record behind its opening bracket. -/
def readFirstMember : (fuel : Nat) → List Char → Reading
  | 0, _ => stopped (.both .eofInValue)
  | fuel + 1, text =>
    match skipGaps text with
    | [] => (.record [] (some (.both .eofInObject)), none)
    | '"' :: rest =>
      let (members, stop, rest) := readMembers fuel rest
      (.record members stop, rest)
    | c :: rest =>
      if c = rightBrace then (.record [] none, some rest)
      else (.record [] (some (.both .keyNotString)), none)

/-- Reads a member behind the opening quote of its key and those that follow it. -/
def readMembers :
    (fuel : Nat) → List Char → List (Token String × Document) × Option Break × Option (List Char)
  | 0, _ => ([], some (.both .eofInValue), none)
  | fuel + 1, text =>
    match readText newScan text with
    | .error b => ([], some b, none)
    | .ok (key, rest) =>
      match skipGaps rest with
      | [] => ([(key, .broken (.both .eofInObject))], none, none)
      | ':' :: rest =>
        match readValue fuel rest with
        | (value, none) => ([(key, value)], none, none)
        | (value, some rest) =>
          match skipGaps rest with
          | [] => ([(key, value)], some (.both .eofInObject), none)
          | ',' :: rest =>
            match skipGaps rest with
            | [] => ([(key, value)], some ⟨.eofInValue, .eofInObject⟩, none)
            | '"' :: rest =>
              let (members, stop, rest) := readMembers fuel rest
              ((key, value) :: members, stop, rest)
            | c :: _ =>
              let fault := if c = rightBrace then .trailingComma else .keyNotString
              ([(key, value)], some ⟨fault, .keyNotString⟩, none)
          | c :: rest =>
            if c = rightBrace then ([(key, value)], none, some rest)
            else ([(key, value)], some (.both .expectedObjectEnd), none)
      | _ => ([(key, .broken (.both .expectedColon))], none, none)

end

/-- Reads the value at the beginning of a text. -/
def read (text : List Char) : Reading := readValue (2 * text.length + 2) text

/-- Whether something other than white space follows the value. -/
def hasTrailing (rest : Option (List Char)) : Bool :=
  rest.any fun text => !(skipGaps text).isEmpty

mutual

/-- The fault met by those who skim a document. -/
def skim : Document → Option GrammarFault
  | .list items stop => (skimItems items).or (stop.map Break.skim)
  | .record members stop => (skimMembers members).or (stop.map Break.skim)
  | .broken b => some b.skim
  | .ended => some .eofInValue
  | .null | .bool _ | .number _ | .string _ => none

def skimItems : List Document → Option GrammarFault
  | [] => none
  | item :: rest => (skim item).or (skimItems rest)

def skimMembers : List (Token String × Document) → Option GrammarFault
  | [] => none
  | (_, value) :: rest => (skim value).or (skimMembers rest)

end

end Document

end QuoteSearch.Json
