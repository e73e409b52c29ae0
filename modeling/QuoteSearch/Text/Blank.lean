import QuoteSearch.Text.Intervals

/-!
# Blank characters

The characters that separate words, that are dropped at both ends of a typed text and that may
stand after a tag name: the Unicode property `White_Space`.
-/

namespace QuoteSearch.Text

def blankIntervals : List (Nat × Nat) :=
  [(0x9, 0xD), (0x20, 0x20), (0x85, 0x85), (0xA0, 0xA0), (0x1680, 0x1680), (0x2000, 0x200A),
    (0x2028, 0x2029), (0x202F, 0x202F), (0x205F, 0x205F), (0x3000, 0x3000)]

def isBlank (c : Char) : Bool := covers blankIntervals c.toNat

/-- A text without the blanks at its ends. -/
def trimBlanks (s : List Char) : List Char :=
  ((s.dropWhile isBlank).reverse.dropWhile isBlank).reverse

def trim (s : String) : String := String.ofList (trimBlanks s.toList)

@[simp]
theorem toList_trim (s : String) : (trim s).toList = trimBlanks s.toList := by simp [trim]

end QuoteSearch.Text
