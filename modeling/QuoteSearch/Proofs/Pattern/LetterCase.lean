import QuoteSearch.Highlight
import QuoteSearch.Proofs.Pattern.Spans
import QuoteSearch.Proofs.Text.LetterCase

/-! # Patterns in another letter case

The pattern of a word with small ASCII letters has the same matches and the same size, so the word
is highlighted in the same places.
-/

namespace QuoteSearch

open Text

namespace WordPattern

theorem standsAt_lowered (term : List Char) (before : Option Char) (rest : List Char) :
    standsAt (lowered term) before rest = standsAt term before rest := by
  rw [standsAt, beginsWith_lowered_left, length_lowered, standsAt]

theorem lengthAt?_lowered (terms : List (List Char)) (before : Option Char) (rest : List Char) :
    lengthAt? (terms.map lowered) before rest = lengthAt? terms before rest := by
  rw [lengthAt?, List.findSome?_map, lengthAt?]
  refine congrArg (terms.findSome? ·) (funext fun term => ?_)
  rw [Function.comp_apply, standsAt_lowered, length_lowered]

theorem spansFrom_lowered (terms : List (List Char)) (before : Option Char) (position skip : Nat)
    (text : List Char) :
    spansFrom (terms.map lowered) before position skip text = spansFrom terms before position skip text :=
  spansFrom_congr (lengthAt?_lowered terms) before position skip text

theorem terms_word_toLower (term : String) : (word term.toLower).terms = (word term).terms.map lowered := by
  rw [terms, toList_toLower, terms, List.map_singleton]

theorem spans_word_toLower (term : String) (text : List Char) :
    (word term.toLower).spans text = (word term).spans text := by
  rw [spans, terms_word_toLower, spansFrom_lowered, spans]

theorem occursIn_word_toLower (term text : String) :
    (word term.toLower).occursIn text = (word term).occursIn text := by
  rw [occursIn, spans_word_toLower, occursIn]

theorem characterSize_toLower (c : Char) : characterSize c.toLower = characterSize c :=
  apply_toLower (by decide +kernel) c

theorem fits_word_toLower (term : String) : (word term.toLower).fits = (word term).fits := by
  have hChars : (word term.toLower).terms.flatten = (word term).terms.flatten.map Char.toLower := by
    rw [terms_word_toLower, terms, List.map_singleton, List.flatten_singleton, List.flatten_singleton, lowered]
  have hSize : (word term.toLower).matcherSize = (word term).matcherSize := by
    simp only [matcherSize, hChars, List.foldl_map, characterSize_toLower]
  rw [fits, hSize, hChars, List.length_map, fits]

end WordPattern

namespace Highlight

theorem termSpans_toLower (content : List Char) (term : String) :
    termSpans content term.toLower = termSpans content term := by
  have hBlank : (trim term.toLower).isEmpty = (trim term).isEmpty := by
    rw [trim_toLower, Bool.eq_iff_iff, String.isEmpty_iff, String.isEmpty_iff, toLower_eq_empty_iff]
  rw [termSpans, hBlank, WordPattern.fits_word_toLower, WordPattern.spans_word_toLower, termSpans]

theorem highlight_toLower (content : String) (terms : List String) :
    highlight content (terms.map String.toLower) = highlight content terms := by
  have hClaims : claims content.toList (terms.map String.toLower) = claims content.toList terms := by
    simp only [claims, List.foldl_map, termSpans_toLower]
  rw [highlight, highlightChars, pieces, markedSpans, hClaims]
  rfl

end Highlight

end QuoteSearch
