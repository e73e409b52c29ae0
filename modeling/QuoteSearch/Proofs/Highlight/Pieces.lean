import QuoteSearch.Proofs.Highlight.Claims

/-! # Pieces of a text

Stretches that follow one another cut a text into pieces, in turn unmarked and marked. Joined, the
pieces are the text, and each stretch is one of them.
-/

namespace QuoteSearch.Highlight

theorem Laid.le {lower upper : Nat} {spans : List Span} (h : Laid lower upper spans) : lower ≤ upper := by
  induction spans generalizing lower with
  | nil => exact h
  | cons s rest ih =>
    obtain ⟨hStart, hNonempty, hRest⟩ := h
    have := ih hRest
    omega

theorem Laid.bounds {lower upper : Nat} {spans : List Span} (h : Laid lower upper spans) :
    ∀ s ∈ spans, lower ≤ s.start ∧ s.start < s.stop := by
  induction spans generalizing lower with
  | nil => simp
  | cons s rest ih =>
    obtain ⟨hStart, hNonempty, hRest⟩ := h
    refine List.forall_mem_cons.mpr ⟨⟨hStart, hNonempty⟩, fun t ht => ?_⟩
    obtain ⟨hOrder, hLater⟩ := ih hRest t ht
    exact ⟨by omega, hLater⟩

theorem flatMap_text_cut (position : Nat) (content : List Char) (spans : List Span) :
    (cut position content spans).flatMap Piece.text = content := by
  induction spans generalizing position content with
  | nil => exact List.append_nil content
  | cons s rest ih =>
    rw [cut, List.flatMap_cons, List.flatMap_cons, ih, Piece.text, Piece.text, List.take_append_drop,
      List.take_append_drop]

/-- The text before a stretch, the stretch and the text behind it. -/
theorem exists_cut_cons {position : Nat} {content : List Char} {s : Span} {rest : List Span}
    (h : Laid position (position + content.length) (s :: rest)) :
    ∃ before inside after, content = before ++ (inside ++ after) ∧
      s.start = position + before.length ∧ s.stop = s.start + inside.length ∧
      Laid s.stop (s.stop + after.length) rest ∧
      cut position content (s :: rest) = .plain before :: .marked inside :: cut s.stop after rest := by
  obtain ⟨hStart, hNonempty, hRest⟩ := h
  have hStop := hRest.le
  refine ⟨_, _, _, ?_, ?_, ?_, ?_, rfl⟩
  · rw [List.take_append_drop, List.take_append_drop]
  · rw [List.length_take]
    omega
  · rw [List.length_take, List.length_drop]
    omega
  · convert hRest using 1
    rw [List.length_drop, List.length_drop]
    omega

/-- A stretch that is marked is a piece of its own. -/
theorem exists_marked_piece {position : Nat} {content : List Char} {spans : List Span}
    (h : Laid position (position + content.length) spans) {s : Span} (hs : s ∈ spans) :
    ∃ before inside after, cut position content spans = before ++ .marked inside :: after ∧
      s.start = position + (before.flatMap Piece.text).length ∧ s.stop = s.start + inside.length := by
  induction spans generalizing position content with
  | nil => cases hs
  | cons t rest ih =>
    obtain ⟨unmarked, marked, behind, rfl, hStart, hStop, hRest, hCut⟩ := exists_cut_cons h
    rw [hCut]
    rcases List.mem_cons.mp hs with rfl | hs
    · exact ⟨[.plain unmarked], marked, _, rfl, by simpa [Piece.text] using hStart, hStop⟩
    · obtain ⟨before, inside, after, hLater, hStart', hStop'⟩ := ih hRest hs
      refine ⟨.plain unmarked :: .marked marked :: before, inside, after, by rw [hLater]; rfl, ?_, hStop'⟩
      simp only [List.flatMap_cons, List.length_append, Piece.text]
      omega

theorem exists_piece_of_mem_claims {content : List Char} {terms : List String} {s : Span}
    (h : s ∈ claims content terms) : ∃ before inside after,
      pieces content terms = before ++ .marked inside :: after ∧
      content = before.flatMap Piece.text ++ (inside ++ after.flatMap Piece.text) ∧
      s.start = (before.flatMap Piece.text).length ∧ s.stop = s.start + inside.length := by
  have hLaid : Laid 0 (0 + content.length) (markedSpans content terms) := by
    rw [Nat.zero_add]
    exact laid_markedSpans content terms
  obtain ⟨before, inside, after, hPieces, hStart, hStop⟩ :=
    exists_marked_piece hLaid ((perm_markedSpans content terms).mem_iff.mpr h)
  refine ⟨before, inside, after, hPieces, ?_, by rwa [Nat.zero_add] at hStart, hStop⟩
  have hJoined := flatMap_text_cut 0 content (markedSpans content terms)
  rw [hPieces, List.flatMap_append, List.flatMap_cons] at hJoined
  exact hJoined.symm

end QuoteSearch.Highlight
