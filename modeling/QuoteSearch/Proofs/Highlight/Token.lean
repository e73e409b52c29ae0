import QuoteSearch.Proofs.Catalog.Select
import QuoteSearch.Proofs.Highlight.Pieces
import QuoteSearch.Proofs.Pattern.Places
import QuoteSearch.Text.Blank

/-! # Terms that stand on their own

A term with blanks or the ends of the text on both sides is a token of the text. A whole-word pattern
takes the token exactly if it begins and ends with word characters: next to a blank only these are
the end of a word. A term like `C++` is therefore not found, not even in a text that is nothing else.
-/

namespace QuoteSearch

open Text

namespace Text

theorem isWordChar_eq_false {c : Char} (h : isBlank c = true) : isWordChar c = false := by
  have hApart : ∀ p ∈ blankIntervals, ∀ k < p.2 + 1 - p.1, covers wordIntervals (p.1 + k) = false := by
    decide +kernel
  have hOrder : Increasing 0 blankIntervals := by simp [blankIntervals, Increasing]
  obtain ⟨p, hp, hLower, hUpper⟩ := (covers_iff_exists_mem hOrder).mp h
  have hPoint := hApart p hp (c.toNat - p.1) (by omega)
  rwa [Nat.add_sub_cancel' hLower] at hPoint

/-- The text ends with a blank, unless it is empty. -/
def EndsBlank (text : List Char) : Prop := ∀ c ∈ text.getLast?, isBlank c = true

/-- The text begins with a blank, unless it is empty. -/
def BeginsBlank (text : List Char) : Prop := ∀ c ∈ text.head?, isBlank c = true

def hasWordEnds (text : List Char) : Bool := text.head?.any isWordChar && text.getLast?.any isWordChar

theorem any_isWordChar_eq_false {neighbour : Option Char} (h : ∀ c ∈ neighbour, isBlank c = true) :
    neighbour.any isWordChar = false := by
  cases neighbour with
  | none => rfl
  | some c => exact isWordChar_eq_false (h c rfl)

end Text

namespace WordPattern

variable {before after : List Char} {term : String}

theorem standsAt_token {token : List Char} (hNonempty : token ≠ []) (hBefore : EndsBlank before)
    (hAfter : BeginsBlank after) :
    standsAt token before.getLast? (token ++ after) = hasWordEnds token := by
  obtain ⟨c, rest, rfl⟩ := List.exists_cons_of_ne_nil hNonempty
  have hReads : beginsWith (c :: rest) (c :: rest ++ after) = true := by
    rw [beginsWith_iff_map_letter, List.map_append]
    exact List.prefix_append _ _
  have hLast : ((c :: rest).getLast?.or before.getLast?) = (c :: rest).getLast? := by
    rw [List.getLast?_cons, Option.some_or]
  rw [standsAt, hReads, List.take_left, List.drop_left, hLast, isBoundary, isBoundary,
    any_isWordChar_eq_false hBefore, any_isWordChar_eq_false hAfter, hasWordEnds, List.cons_append,
    List.head?_cons, List.head?_cons, Bool.and_true, Bool.false_bne, Bool.bne_false]

theorem occursIn_of_token (hNonempty : term.toList ≠ []) (hBefore : EndsBlank before)
    (hAfter : BeginsBlank after) (hEnds : hasWordEnds term.toList = true) :
    (word term).occursIn (String.ofList (before ++ (term.toList ++ after))) = true := by
  have hStands : standsAt term.toList before.getLast? (term.toList ++ after) = true := by
    rw [standsAt_token hNonempty hBefore hAfter, hEnds]
  rw [occursIn_iff, String.toList_ofList]
  exact ⟨⟨before.length, before.length + term.toList.length⟩, before, term.toList ++ after, rfl, rfl,
    term.toList, List.mem_singleton_self _, hStands, rfl⟩

/-- In a text that is nothing but the term there is no other place for it. -/
theorem occursIn_self (hNonempty : term.toList ≠ []) : (word term).occursIn term = hasWordEnds term.toList := by
  have hWhole : standsAt term.toList none term.toList = hasWordEnds term.toList := by
    simpa using @standsAt_token [] [] term.toList hNonempty (by simp [EndsBlank]) (by simp [BeginsBlank])
  rw [Bool.eq_iff_iff, occursIn_iff, ← hWhole]
  constructor
  · rintro ⟨m, before, after, hText, -, t, ht, hStands, -⟩
    obtain rfl := List.mem_singleton.mp ht
    have hLength := length_le_of_standsAt hStands
    have hNone : before = [] := by
      have := congrArg List.length hText
      rw [List.length_append] at this
      exact List.length_eq_zero_iff.mp (by omega)
    obtain rfl := hNone
    rw [List.nil_append] at hText
    rwa [← hText] at hStands
  · intro hStands
    exact ⟨⟨0, term.toList.length⟩, [], term.toList, rfl, rfl, term.toList, List.mem_singleton_self _, hStands,
      by simp⟩

end WordPattern

namespace Highlight

/-- One of the marked stretches of the highlighted text reads like the term. -/
def MarksOccurrence (content term : String) : Prop :=
  ∃ (before after : List Piece) (inside : List Char), inside.map letter = term.toList.map letter ∧
    content.toList = before.flatMap Piece.text ++ (inside ++ after.flatMap Piece.text) ∧
    (highlight content [term]).toList =
      before.flatMap Piece.render ++ ((Piece.marked inside).render ++ after.flatMap Piece.render)

theorem marksOccurrence_of_occursIn {content term : String} (hTerm : trimBlanks term.toList ≠ [])
    (hFits : (WordPattern.word term).fits = true) (h : (WordPattern.word term).occursIn content = true) :
    MarksOccurrence content term := by
  obtain ⟨m, hm, hNonempty⟩ := (WordPattern.occursIn_word_iff (ne_nil_of_trimBlanks_ne_nil hTerm)).mp h
  rw [← termSpans_eq hTerm hFits] at hm
  obtain ⟨s, hClaimed, -⟩ := exists_claim_overlapping (List.mem_singleton_self term) hm hNonempty
  -- What is claimed need not be this match, but it is one of the same term.
  obtain ⟨t, ht, hMatch⟩ := exists_term_of_mem_claims hClaimed
  obtain rfl := List.mem_singleton.mp ht
  rw [termSpans_eq hTerm hFits] at hMatch
  obtain ⟨front, matched, back, hMatched, rfl, hLetters⟩ := WordPattern.exists_stretch_of_mem_spans hMatch
  obtain ⟨before, inside, after, hPieces, hContent, hStart, hStop⟩ := exists_piece_of_mem_claims hClaimed
  have hSame : inside = matched := by
    rw [hMatched] at hContent
    exact (List.append_inj_left (List.append_inj_right hContent hStart) (Nat.add_left_cancel hStop)).symm
  refine ⟨before, after, inside, hSame ▸ hLetters, hContent, ?_⟩
  rw [highlight, String.toList_ofList, highlightChars, hPieces, List.flatMap_append, List.flatMap_cons]

theorem highlight_of_not_fits {term : String} (h : (WordPattern.word term).fits = false) (content : String) :
    highlight content [term] = Html.escapeText content := by
  have hNone : termSpans content.toList term = [] := by
    simp only [termSpans, h, Bool.not_false, Bool.or_true, if_true]
  have hClaims : markedSpans content.toList [term] = [] := by
    rw [markedSpans, claims_eq_foldl, List.flatMap_singleton, hNone, List.foldl_nil, List.mergeSort_nil]
  rw [highlight, highlightChars, pieces, hClaims, cut, List.flatMap_singleton]
  rfl

end Highlight

open WordPattern Highlight

/-- What becomes of a term that stands in a text between `before` and `after`. -/
structure TakesToken (before : List Char) (term : String) (after : List Char) : Prop where
  stands : standsAt term.toList before.getLast? (term.toList ++ after) = hasWordEnds term.toList
  found : hasWordEnds term.toList = true →
    (word term).occursIn (String.ofList (before ++ (term.toList ++ after))) = true
  marked : hasWordEnds term.toList = true →
    MarksOccurrence (String.ofList (before ++ (term.toList ++ after))) term
  quoted : ∀ (c : Catalog) (sort : SortOrder), ∃ rows, c.listQuotes [.contentWord term] sort = .ok rows ∧
    ∀ row ∈ c.rows, row.quote.content = term → (row ∈ rows ↔ hasWordEnds term.toList = true)

/-- A term that stands as a token of its own is taken exactly if it begins and ends with word
characters. -/
theorem token_is_taken_by_word_ends {before after : List Char} {term : String} (hTerm : trim term ≠ "")
    (hFits : (word term).fits = true) (hBefore : EndsBlank before) (hAfter : BeginsBlank after) :
    TakesToken before term after := by
  have hBlank := trimBlanks_ne_nil hTerm
  have hNonempty := ne_nil_of_trimBlanks_ne_nil hBlank
  have hFound := occursIn_of_token hNonempty hBefore hAfter
  refine ⟨standsAt_token hNonempty hBefore hAfter, hFound,
    fun hEnds => marksOccurrence_of_occursIn hBlank hFits (hFound hEnds), fun c sort => ?_⟩
  have hCompiles : ∀ f ∈ [Filter.contentWord term], f.compiles = true := by simpa [Filter.compiles] using hFits
  refine ⟨c.foundRows [.contentWord term] sort, c.listQuotes_eq hCompiles sort, fun row hRow hContent => ?_⟩
  obtain ⟨hQuote, hVideo⟩ := Catalog.mem_rows.mp hRow
  rw [Catalog.mem_foundRows, List.forall_mem_singleton, Filter.acceptsRow, hContent, occursIn_self hNonempty]
  simp only [hQuote, hVideo, true_and]

/-- A token may hold other characters than word characters, but not at its ends. -/
theorem sample_token_is_taken_by_word_ends :
    hasWordEnds "what's up".toList = true ∧ TakesToken "so ".toList "what's up" " doc?".toList := by
  have hBefore : EndsBlank "so ".toList := by
    have hLast : "so ".toList.getLast? = some ' ' := by decide +kernel
    rw [EndsBlank, hLast]
    rintro c ⟨⟩
    decide
  have hAfter : BeginsBlank " doc?".toList := by
    have hFirst : " doc?".toList.head? = some ' ' := by decide +kernel
    rw [BeginsBlank, hFirst]
    rintro c ⟨⟩
    decide
  exact ⟨by decide +kernel, token_is_taken_by_word_ends (by decide +kernel) (by decide +kernel) hBefore hAfter⟩

theorem matcherSize_replicate (n : Nat) (c : Char) :
    (word (String.ofList (List.replicate n c))).matcherSize = n * characterSize c := by
  rw [matcherSize, terms, List.flatten_singleton, String.toList_ofList]
  induction n with
  | zero => simp
  | succ n ih => rw [List.replicate_succ', List.foldl_append, ih, List.foldl_cons, List.foldl_nil, Nat.succ_mul]

theorem not_fits_replicate {n : Nat} {c : Char} (hBound : sizeLimit < n * characterBound)
    (hSize : sizeLimit < n * characterSize c) : (word (String.ofList (List.replicate n c))).fits = false := by
  rw [fits, matcherSize_replicate, terms, List.flatten_singleton, String.toList_ofList, List.length_replicate,
    decide_eq_false (Nat.not_le_of_lt hBound), decide_eq_false (Nat.not_le_of_lt hSize), Bool.or_self]

theorem trim_replicate {n : Nat} {c : Char} (hc : isBlank c = false) :
    trim (String.ofList (List.replicate n c)) = String.ofList (List.replicate n c) := by
  rw [← String.toList_inj, toList_trim, String.toList_ofList, trimBlanks_eq_self_iff]
  refine ⟨fun d hd => ?_, fun d hd => ?_⟩
  · rwa [List.eq_of_mem_replicate (List.mem_of_mem_head? hd)]
  · rwa [List.eq_of_mem_replicate (List.mem_of_mem_getLast? hd)]

/-- A term whose matcher takes more than there may be. -/
def longTerm : String := String.ofList (List.replicate 60000 'θ')

theorem fits_longTerm : (word longTerm).fits = false := by
  have hSize : characterSize 'θ' = 176 := by decide +kernel
  refine not_fits_replicate (by decide) ?_
  rw [hSize]
  decide

/-- Tokens that whole words miss: one that ends with other characters than word characters, though it
is the whole text, and one that is too long to be searched for. -/
theorem tokens_missed_by_whole_words :
    trim "C++" = "C++" ∧ (word "C++").occursIn "C++" = false ∧ highlight "C++" ["C++"] = "C++" ∧
      trim longTerm = longTerm ∧ (word longTerm).fits = false ∧
      highlight longTerm [longTerm] = Html.escapeText longTerm :=
  ⟨by decide +kernel, by decide +kernel, by decide +kernel, trim_replicate (by decide +kernel), fits_longTerm,
    highlight_of_not_fits fits_longTerm longTerm⟩

end QuoteSearch
