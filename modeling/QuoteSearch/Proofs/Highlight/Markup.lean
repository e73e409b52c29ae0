import QuoteSearch.Proofs.Highlight.Pieces
import QuoteSearch.Proofs.Html.Escape

/-! # The marks are the only markup

A highlighted text is safe text in which some safe, non-empty stretches stand between an opening
and a closing mark. Whatever the text and the terms are, all that could be markup belongs to these
marks, and they alternate.
-/

namespace QuoteSearch.Highlight

/-- A text with so many marked stretches, safe in front of, within and between the marks. -/
inductive IsMarked : Nat → List Char → Prop where
  | plain {text : List Char} (h : Html.IsSafe text) : IsMarked 0 text
  | mark {before inside rest : List Char} {n : Nat} (hBefore : Html.IsSafe before)
      (hInside : Html.IsSafe inside) (hNonempty : inside ≠ []) (hRest : IsMarked n rest) :
      IsMarked (n + 1) (before ++ (markOpen.toList ++ (inside ++ (markClose.toList ++ rest))))

inductive Mark where
  | opening
  | closing
deriving DecidableEq

def Mark.text : Mark → List Char
  | opening => markOpen.toList
  | closing => markClose.toList

/-- The mark that stands where a text begins. -/
def markAt? (text : List Char) : Option Mark :=
  if Mark.opening.text.isPrefixOf text then some .opening
  else if Mark.closing.text.isPrefixOf text then some .closing
  else none

/-- All the marks that stand in a text, from left to right. -/
def marksIn : List Char → List Mark
  | [] => []
  | c :: rest => (markAt? (c :: rest)).toList ++ marksIn rest

/-- A position lies within a mark that stands in the text. -/
def InMark (text : List Char) (position : Nat) : Prop :=
  ∃ mark : Mark, ∃ before after, text = before ++ (mark.text ++ after) ∧
    before.length ≤ position ∧ position < before.length + mark.text.length

theorem isMarked_cut {position : Nat} {content : List Char} {spans : List Span}
    (h : Laid position (position + content.length) spans) :
    IsMarked spans.length ((cut position content spans).flatMap Piece.render) := by
  induction spans generalizing position content with
  | nil =>
    rw [cut, List.flatMap_singleton]
    exact .plain (Html.isSafe_escape content)
  | cons s rest ih =>
    have hNonempty := h.2.1
    obtain ⟨before, inside, after, -, -, hStop, hRest, hCut⟩ := exists_cut_cons h
    have hInside : inside ≠ [] := by
      rintro rfl
      simp only [List.length_nil] at hStop
      omega
    have hMarked := IsMarked.mark (Html.isSafe_escape before) (Html.isSafe_escape inside)
      (Html.escape_ne_nil hInside) (ih hRest)
    simpa [hCut, Piece.render] using hMarked

theorem markAt?_eq_none {c : Char} (h : c ≠ '<') (rest : List Char) : markAt? (c :: rest) = none := by
  have hOpening : Mark.opening.text = '<' :: "span class=\"highlight\">".toList := rfl
  have hClosing : Mark.closing.text = '<' :: "/span>".toList := rfl
  simp [markAt?, hOpening, hClosing, h.symm]

theorem marksIn_append {text : List Char} (h : '<' ∉ text) (rest : List Char) :
    marksIn (text ++ rest) = marksIn rest := by
  induction text with
  | nil => rfl
  | cons c text ih =>
    obtain ⟨hc, hText⟩ := not_or.mp (List.mem_cons.not.mp h)
    rw [List.cons_append, marksIn, markAt?_eq_none (Ne.symm hc), ih hText]
    rfl

theorem markAt?_mark (mark : Mark) (rest : List Char) : markAt? (mark.text ++ rest) = some mark := by
  cases mark
  · simp [markAt?]
  · have hOther : Mark.opening.text.isPrefixOf (Mark.closing.text ++ rest) = false := rfl
    simp [markAt?, hOther]

theorem marksIn_mark (mark : Mark) (rest : List Char) :
    marksIn (mark.text ++ rest) = mark :: marksIn rest := by
  obtain ⟨tail, hText, hTail⟩ : ∃ tail, mark.text = '<' :: tail ∧ '<' ∉ tail := by
    cases mark
    · exact ⟨"span class=\"highlight\">".toList, rfl, by decide⟩
    · exact ⟨"/span>".toList, rfl, by decide⟩
  have hHere := markAt?_mark mark rest
  rw [hText, List.cons_append] at hHere ⊢
  rw [marksIn, hHere, marksIn_append hTail]
  rfl

theorem not_mem_of_isSafe {text : List Char} (h : Html.IsSafe text) : '<' ∉ text :=
  fun hMem => h.noDelimiter _ hMem (by decide)

theorem IsMarked.marksIn_eq {n : Nat} {text : List Char} (h : IsMarked n text) :
    marksIn text = (List.replicate n [Mark.opening, Mark.closing]).flatten := by
  induction h with
  | plain h => simpa [marksIn] using marksIn_append (not_mem_of_isSafe h) []
  | mark hBefore hInside _ _ ih =>
    rw [marksIn_append (not_mem_of_isSafe hBefore)]
    change marksIn (Mark.opening.text ++ (_ ++ (Mark.closing.text ++ _))) = _
    rw [marksIn_mark, marksIn_append (not_mem_of_isSafe hInside), marksIn_mark, ih,
      List.replicate_succ, List.flatten_cons]
    rfl

theorem InMark.append_left {text : List Char} {position : Nat} (h : InMark text position)
    (front : List Char) : InMark (front ++ text) (front.length + position) := by
  obtain ⟨mark, before, after, rfl, hStart, hStop⟩ := h
  refine ⟨mark, front ++ before, after, (List.append_assoc _ _ _).symm, ?_, ?_⟩
  · simp only [List.length_append]
    omega
  · simp only [List.length_append]
    omega

theorem inMark_append {mark : Mark} {position : Nat} (h : position < mark.text.length)
    (after : List Char) : InMark (mark.text ++ after) position :=
  ⟨mark, [], after, rfl, Nat.zero_le _, by simpa using h⟩

theorem le_of_delimiter {text rest : List Char} (h : Html.IsSafe text) {position : Nat} {c : Char}
    (hc : (text ++ rest)[position]? = some c) (hDelimiter : c ∈ Html.delimiters) :
    text.length ≤ position := by
  by_contra hLess
  rw [List.getElem?_append_left (by omega)] at hc
  exact h.noDelimiter c (List.mem_of_getElem? hc) hDelimiter

/-- Behind a front without the character, it is the rest that has to have it in a mark. -/
theorem inMark_of_back {front back : List Char} {position : Nat} {c : Char}
    (hFront : front.length ≤ position) (hc : (front ++ back)[position]? = some c)
    (hBack : ∀ i, back[i]? = some c → InMark back i) : InMark (front ++ back) position := by
  obtain ⟨i, rfl⟩ := Nat.exists_eq_add_of_le hFront
  rw [List.getElem?_append_right hFront, Nat.add_sub_cancel_left] at hc
  exact (hBack i hc).append_left front

theorem inMark_of_mark (mark : Mark) {back : List Char} {position : Nat} {c : Char}
    (hc : (mark.text ++ back)[position]? = some c) (hBack : ∀ i, back[i]? = some c → InMark back i) :
    InMark (mark.text ++ back) position := by
  by_cases hMark : position < mark.text.length
  · exact inMark_append hMark back
  · exact inMark_of_back (Nat.le_of_not_lt hMark) hc hBack

theorem IsMarked.inMark {n : Nat} {text : List Char} (h : IsMarked n text) {position : Nat} {c : Char}
    (hc : text[position]? = some c) (hDelimiter : c ∈ Html.delimiters) : InMark text position := by
  induction h generalizing position with
  | @plain text h =>
    have hHere : (text ++ [])[position]? = some c := (List.append_nil text).symm ▸ hc
    have hLength := le_of_delimiter h hHere hDelimiter
    rw [List.getElem?_eq_none hLength] at hc
    cases hc
  | mark hBefore hInside _ _ ih =>
    -- The text is peeled stretch by stretch: a delimiter is behind a safe stretch, or in a mark.
    refine inMark_of_back (le_of_delimiter hBefore hc hDelimiter) hc fun i hi => ?_
    refine inMark_of_mark .opening hi fun i hi => ?_
    refine inMark_of_back (le_of_delimiter hInside hi hDelimiter) hi fun i hi => ?_
    exact inMark_of_mark .closing hi fun i hi => ih hi

theorem isMarked_highlightChars (content : List Char) (terms : List String) :
    IsMarked (claims content terms).length (highlightChars content terms) := by
  rw [← (perm_markedSpans content terms).length_eq]
  exact isMarked_cut (by simpa using laid_markedSpans content terms)

theorem highlight_nil (content : String) : highlight content [] = Html.escapeText content := by
  rw [highlight, highlightChars, pieces, markedSpans, claims, List.foldl_nil, List.mergeSort_nil, cut,
    List.flatMap_singleton]
  rfl

/-- No text and no terms bring markup into a highlighted text but the marks, one pair for each
claimed stretch. -/
theorem highlight_leaks_no_markup (content : String) (terms : List String) :
    IsMarked (claims content.toList terms).length (highlight content terms).toList ∧
      (∀ position c, (highlight content terms).toList[position]? = some c →
        c = '<' ∨ c = '>' ∨ c = '"' → InMark (highlight content terms).toList position) ∧
      marksIn (highlight content terms).toList =
        (List.replicate (claims content.toList terms).length [Mark.opening, Mark.closing]).flatten := by
  have hMarked : IsMarked (claims content.toList terms).length (highlight content terms).toList := by
    rw [highlight, String.toList_ofList]
    exact isMarked_highlightChars content.toList terms
  refine ⟨hMarked, ?_, hMarked.marksIn_eq⟩
  intro position c hc hDelimiter
  refine hMarked.inMark hc ?_
  rcases hDelimiter with rfl | rfl | rfl <;> decide

end QuoteSearch.Highlight
