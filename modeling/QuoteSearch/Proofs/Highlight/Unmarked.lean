import QuoteSearch.Proofs.Highlight.Markup
import QuoteSearch.Proofs.Html.Cut

/-! # The text without its marks

A highlighted text without its marks is the text escaped piece by piece. It is the escaped text if
and only if no marked stretch begins or ends within a character reference of the text; otherwise
the reader sees a reference where a character was meant.
-/

namespace QuoteSearch.Highlight

open Html

/-- Drops the marks that stand in a text; the next `skip` characters belong to one of them. -/
def unmarkFrom : (skip : Nat) → List Char → List Char
  | _, [] => []
  | skip + 1, _ :: rest => unmarkFrom skip rest
  | 0, c :: rest =>
    match markAt? (c :: rest) with
    | some mark => unmarkFrom (mark.text.length - 1) rest
    | none => c :: unmarkFrom 0 rest

/-- A text without the marks that stand in it. -/
def unmark (text : List Char) : List Char := unmarkFrom 0 text

theorem unmarkFrom_append (dropped rest : List Char) :
    unmarkFrom dropped.length (dropped ++ rest) = unmark rest := by
  induction dropped with
  | nil => rfl
  | cons c dropped ih => exact ih

theorem unmark_append {text : List Char} (h : '<' ∉ text) (rest : List Char) :
    unmark (text ++ rest) = text ++ unmark rest := by
  induction text with
  | nil => rfl
  | cons c text ih =>
    obtain ⟨hc, hText⟩ := not_or.mp (List.mem_cons.not.mp h)
    rw [List.cons_append, unmark, unmarkFrom, markAt?_eq_none (Ne.symm hc), ← unmark, ih hText]
    rfl

theorem unmark_mark (mark : Mark) (rest : List Char) : unmark (mark.text ++ rest) = unmark rest := by
  obtain ⟨c, dropped, hText⟩ : ∃ c dropped, mark.text = c :: dropped := by
    cases mark <;> exact ⟨_, _, rfl⟩
  have hHere := markAt?_mark mark rest
  rw [hText, List.cons_append] at hHere ⊢
  simp only [unmark, unmarkFrom, hHere, hText]
  exact unmarkFrom_append dropped rest

theorem unmark_render (piece : Piece) (rest : List Char) :
    unmark (piece.render ++ rest) = escape piece.text ++ unmark rest := by
  cases piece with
  | plain text => exact unmark_append (not_mem_of_isSafe (isSafe_escape text)) rest
  | marked text =>
    rw [Piece.render, List.append_assoc, List.append_assoc]
    change unmark (Mark.opening.text ++ (_ ++ (Mark.closing.text ++ _))) = _
    rw [unmark_mark, unmark_append (not_mem_of_isSafe (isSafe_escape text)), unmark_mark]
    rfl

/-- The pieces of a text, escaped one by one. -/
def escapePieces (pieces : List Piece) : List Char := pieces.flatMap fun piece => escape piece.text

theorem escapePieces_cons (piece : Piece) (pieces : List Piece) :
    escapePieces (piece :: pieces) = escape piece.text ++ escapePieces pieces := rfl

theorem unmark_flatMap_render (pieces : List Piece) :
    unmark (pieces.flatMap Piece.render) = escapePieces pieces := by
  induction pieces with
  | nil => rfl
  | cons piece pieces ih => rw [List.flatMap_cons, unmark_render, ih, escapePieces_cons]

theorem length_escape_le (pieces : List Piece) :
    (escape (pieces.flatMap Piece.text)).length ≤ (escapePieces pieces).length := by
  induction pieces with
  | nil => exact Nat.le_refl _
  | cons piece pieces ih =>
    have hCut := length_escape_append_le piece.text (pieces.flatMap Piece.text)
    rw [List.flatMap_cons, escapePieces_cons]
    simp only [List.length_append] at hCut ⊢
    omega

/-- The stretch begins and ends outside of the character references of the text. -/
def SparesReferences (text : List Char) (s : Span) : Prop :=
  ¬ CutsReference text s.start ∧ ¬ CutsReference text s.stop

theorem escapePieces_cut_eq_iff {position : Nat} {content : List Char} {spans : List Span}
    (h : Laid position (position + content.length) spans) :
    escapePieces (cut position content spans) = escape content ↔
      ∀ s ∈ spans, SparesReferences content ⟨s.start - position, s.stop - position⟩ := by
  induction spans generalizing position content with
  | nil => simp [escapePieces, cut, Piece.text]
  | cons s rest ih =>
    obtain ⟨before, inside, after, rfl, hStart, hStop, hRest, hCut⟩ := exists_cut_cons h
    have hLater : ∀ t ∈ rest, s.stop ≤ t.start ∧ t.start < t.stop := hRest.bounds
    have hLongAfter : (escape after).length ≤ (escapePieces (cut s.stop after rest)).length := by
      simpa only [flatMap_text_cut] using length_escape_le (cut s.stop after rest)
    have hLongInside : (escape (inside ++ after)).length ≤
        (escape inside ++ escapePieces (cut s.stop after rest)).length := by
      have hLess := length_escape_append_le inside after
      simp only [List.length_append] at hLess ⊢
      omega
    have hFirst : s.start - position = before.length := by omega
    have hSecond : s.stop - position = before.length + inside.length := by omega
    rw [hCut, escapePieces_cons, escapePieces_cons, Piece.text, Piece.text,
      escape_append_eq_iff hLongInside, escape_append_eq_iff hLongAfter, ih hRest, List.forall_mem_cons,
      SparesReferences, hFirst, hSecond, and_assoc]
    refine and_congr_right fun hBefore => ?_
    rw [cutsReference_append_iff hBefore]
    refine and_congr_right fun hInside => forall₂_congr fun t ht => ?_
    obtain ⟨hOrder, hNonempty⟩ := hLater t ht
    have hTail : ∀ n, s.stop ≤ n → (CutsReference (before ++ (inside ++ after)) (n - position) ↔
        CutsReference after (n - s.stop)) := by
      intro n hn
      have hPosition : n - position = before.length + (inside.length + (n - s.stop)) := by omega
      rw [hPosition, cutsReference_append_iff hBefore, cutsReference_append_iff hInside]
    rw [SparesReferences, SparesReferences, hTail t.start hOrder, hTail t.stop (by omega)]

/-- Highlighting shows the text as it is without highlighting exactly if each marked stretch
begins and ends outside of the character references of the text. -/
theorem unmark_highlight_eq_iff (content : String) (terms : List String) :
    unmark (highlight content terms).toList = (Html.escapeText content).toList ↔
      ∀ s ∈ markedSpans content.toList terms, SparesReferences content.toList s := by
  have hLaid : Laid 0 (0 + content.toList.length) (markedSpans content.toList terms) := by
    rw [Nat.zero_add]
    exact laid_markedSpans content.toList terms
  rw [highlight, Html.escapeText, String.toList_ofList, String.toList_ofList, highlightChars, pieces,
    unmark_flatMap_render]
  exact escapePieces_cut_eq_iff hLaid

/-- A match within a reference of the text changes what is shown of it. -/
theorem match_in_reference_changes_text :
    highlight "Tom &amp; Jerry" ["amp"] = "Tom &amp;<span class=\"highlight\">amp</span>; Jerry" ∧
      unmark (highlight "Tom &amp; Jerry" ["amp"]).toList = "Tom &amp;amp; Jerry".toList ∧
      (Html.escapeText "Tom &amp; Jerry").toList = "Tom &amp; Jerry".toList ∧
      unmark (highlight "Tom &amp; Jerry" ["amp"]).toList ≠ (Html.escapeText "Tom &amp; Jerry").toList := by
  decide +kernel

end QuoteSearch.Highlight
