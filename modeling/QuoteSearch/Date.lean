import QuoteSearch.Text.Blank
import QuoteSearch.Text.Digit

/-!
# Calendar dates

Dates of the proleptic Gregorian calendar, written `YYYY-MM-DD`. A year outside 0 to 9999 is
written with a sign. Reading is more lenient than writing: blanks may stand in front of a number
and at the end, and months and days may have one digit.
-/

namespace QuoteSearch

namespace Date

def leastYear : Int := -262143

def greatestYear : Int := 262142

def isLeapYear (year : Int) : Bool := year % 4 == 0 && (year % 100 != 0 || year % 400 == 0)

def daysInMonth (year : Int) (month : Nat) : Nat :=
  if month = 2 then if isLeapYear year then 29 else 28
  else if month = 4 ∨ month = 6 ∨ month = 9 ∨ month = 11 then 30
  else 31

def isCalendarDay (year : Int) (month day : Nat) : Bool :=
  leastYear ≤ year && year ≤ greatestYear && 1 ≤ month && month ≤ 12 && 1 ≤ day &&
    day ≤ daysInMonth year month

end Date

structure Date where
  year : Int
  month : Nat
  day : Nat
  valid : Date.isCalendarDay year month day = true
deriving DecidableEq

inductive DateFault where
  | tooShort
  | invalid
  | outOfRange
  | trailing
deriving DecidableEq

def DateFault.message : DateFault → String
  | .tooShort => "premature end of input"
  | .invalid => "input contains invalid characters"
  | .outOfRange => "input is out of range"
  | .trailing => "trailing input"

namespace Date

open Text

def yearText (year : Int) : List Char :=
  if 0 ≤ year ∧ year ≤ 9999 then padded 4 year.toNat
  else (if year < 0 then '-' else '+') :: padded 4 year.natAbs

def chars (d : Date) : List Char :=
  yearText d.year ++ '-' :: padded 2 d.month ++ '-' :: padded 2 d.day

def text (d : Date) : String := String.ofList d.chars

/-- The greatest number that is read; a longer one is out of range. -/
def mostRead : Nat := Nat.pow 2 63 - 1

/-- Reads digits onto a number, at most `width` of them. -/
def readDigits : (width n : Nat) → List Char → Except DateFault (Nat × List Char)
  | width + 1, n, c :: rest =>
    if isDigit c then
      let next := 10 * n + digitValue c
      if next ≤ mostRead then readDigits width next rest else .error .outOfRange
    else .ok (n, c :: rest)
  | _, n, rest => .ok (n, rest)

/-- Reads at least one digit. -/
def readNumber (width : Nat) : List Char → Except DateFault (Nat × List Char)
  | [] => .error .tooShort
  | c :: rest => if isDigit c then readDigits width 0 (c :: rest) else .error .invalid

/-- A year has four digits unless it has a sign. -/
def readYear (text : List Char) : Except DateFault (Int × List Char) :=
  match text.dropWhile isBlank with
  | '-' :: rest => (readNumber rest.length rest).map fun (n, rest) => (-n, rest)
  | '+' :: rest => (readNumber rest.length rest).map fun (n, rest) => (n, rest)
  | rest => (readNumber 4 rest).map fun (n, rest) => (n, rest)

/-- Reads a month or a day, which may not be greater than `most`. -/
def readPart (most : Nat) (text : List Char) : Except DateFault (Nat × List Char) := do
  let (n, rest) ← readNumber 2 (text.dropWhile isBlank)
  if 1 ≤ n ∧ n ≤ most then return (n, rest) else throw .outOfRange

def readDash (text : List Char) : Except DateFault (List Char) :=
  match text.dropWhile isBlank with
  | [] => .error .tooShort
  | '-' :: rest => .ok rest
  | _ => .error .invalid

/-- A year may be any whole number of 32 bits before the date as a whole is looked at. -/
def isYear (year : Int) : Bool := -Int.pow 2 31 ≤ year && year < Int.pow 2 31

def readChars (text : List Char) : Except DateFault Date := do
  let (year, rest) ← readYear text
  if !isYear year then throw .outOfRange
  let rest ← readDash rest
  let (month, rest) ← readPart 12 rest
  let rest ← readDash rest
  let (day, rest) ← readPart 31 rest
  if !(rest.dropWhile isBlank).isEmpty then throw .trailing
  if h : isCalendarDay year month day = true then return ⟨year, month, day, h⟩
  else throw .outOfRange

def read (text : String) : Except DateFault Date := readChars text.toList

end Date

end QuoteSearch
