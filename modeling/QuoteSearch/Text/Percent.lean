import QuoteSearch.Text.Digit
import QuoteSearch.Text.Utf8

/-!
# Percent encoding

In an address a byte may be written as a percent sign and two hexadecimal digits. A percent sign
that is not followed by two digits stands for itself.
-/

namespace QuoteSearch.Text

def percentSign : Nat := 0x25

/-- The byte that is written at the beginning, if a percent sign and two digits stand there. -/
def encoded? (first : Nat) (rest : List Nat) : Option Nat :=
  match rest with
  | a :: b :: _ =>
    if first = percentSign then do
      let high ← hexValue? (Char.ofNat a)
      let low ← hexValue? (Char.ofNat b)
      return high * 16 + low
    else none
  | _ => none

/-- The next `skip` bytes belong to what was already decoded. -/
def percentDecodeFrom : (skip : Nat) → List Nat → List Nat
  | _, [] => []
  | skip + 1, _ :: rest => percentDecodeFrom skip rest
  | 0, b :: rest =>
    match encoded? b rest with
    | some byte => byte :: percentDecodeFrom 2 rest
    | none => b :: percentDecodeFrom 0 rest

def percentDecode (bytes : List Nat) : List Nat := percentDecodeFrom 0 bytes

/-- The text of a component of an address; it may turn out to be no UTF-8. -/
def percentDecodeText (text : List Char) : Except (Nat × Utf8Fault) (List Char) :=
  decode (percentDecode (bytesOf text))

/-- A name or a value of a query string. A plus sign stands for a blank. -/
def formDecode (text : List Char) : List Char :=
  let spaced := (bytesOf text).map fun b => if b = 0x2B then 0x20 else b
  decodeLossy (percentDecode spaced)

/-- The text in front of the first separator and, if there is one, the text behind it. -/
def cutAt (separator : Char) (text : List Char) : List Char × Option (List Char) :=
  let left := text.takeWhile (· != separator)
  match text.drop left.length with
  | [] => (left, none)
  | _ :: right => (left, some right)

/-- The pairs of names and values of a query string. Empty parts are no pairs. -/
def formPairs (query : List Char) : List (String × String) :=
  ((query.splitOn '&').filter fun part => !part.isEmpty).map fun part =>
    let (name, value) := cutAt '=' part
    (String.ofList (formDecode name), String.ofList (formDecode (value.getD [])))

end QuoteSearch.Text
