import QuoteSearch.Pattern.Basic

/-! # Where matches lie

Every match lies within the text and is as long as one of the terms, and matches do not overlap. A
stretch of a text that is counted in bytes begins and ends between two characters.
-/

namespace QuoteSearch

section

variable {text : List Char} {spans : List Span}

theorem getD_byteOffsets (before : Nat) {i : Nat} (h : i ≤ text.length) :
    (byteOffsets before text).getD i 0 = before + (String.ofList (text.take i)).utf8ByteSize := by
  induction text generalizing before i with
  | nil =>
    obtain rfl := Nat.le_zero.mp h
    simp [byteOffsets]
  | cons c text ih =>
    cases i with
    | zero => simp [byteOffsets]
    | succ i =>
      rw [byteOffsets, List.getD_cons_succ, ih _ (Nat.le_of_succ_le_succ h), List.take_succ_cons,
        String.ofList_cons, String.utf8ByteSize_append, String.utf8ByteSize_singleton, Nat.add_assoc]

theorem utf8ByteSize_take_lt {i j : Nat} (hLess : i < j) (hj : j ≤ text.length) :
    (String.ofList (text.take i)).utf8ByteSize < (String.ofList (text.take j)).utf8ByteSize := by
  obtain ⟨k, rfl⟩ := Nat.exists_eq_add_of_lt hLess
  have hInside : String.ofList ((text.drop i).take (k + 1)) ≠ "" := by
    rw [ne_eq, String.ofList_eq_empty_iff, ← List.length_eq_zero_iff, List.length_take, List.length_drop]
    omega
  rw [Nat.add_assoc, List.take_add, String.ofList_append, String.utf8ByteSize_append]
  have hPos := Nat.pos_of_ne_zero (mt String.utf8ByteSize_eq_zero_iff.mp hInside)
  omega

theorem Span.toBytes_eq (h : ∀ s ∈ spans, s.start ≤ text.length ∧ s.stop ≤ text.length) :
    toBytes text spans = spans.map fun s =>
      ⟨(String.ofList (text.take s.start)).utf8ByteSize, (String.ofList (text.take s.stop)).utf8ByteSize⟩ := by
  rw [toBytes]
  apply List.map_congr_left
  intro s hs
  obtain ⟨hStart, hStop⟩ := h s hs
  have hOffset : ∀ {i : Nat}, i ≤ text.length → (byteOffsets 0 text).toArray.getD i 0 =
      (String.ofList (text.take i)).utf8ByteSize := by
    intro i hi
    rw [Array.getD_eq_getD_getElem?, List.getElem?_toArray, ← List.getD_eq_getElem?_getD,
      getD_byteOffsets 0 hi, Nat.zero_add]
  rw [hOffset hStart, hOffset hStop]

end

namespace WordPattern

theorem length_le_of_standsAt {term : List Char} {before : Option Char} {rest : List Char}
    (h : standsAt term before rest = true) : term.length ≤ rest.length := by
  simp only [standsAt, Bool.and_eq_true] at h
  exact Text.length_le_of_beginsWith h.1.2

theorem exists_of_lengthAt?_eq_some {terms : List (List Char)} {before : Option Char}
    {rest : List Char} {n : Nat} (h : lengthAt? terms before rest = some n) :
    ∃ term ∈ terms, standsAt term before rest = true ∧ term.length = n := by
  obtain ⟨term, hTerm, h⟩ := List.exists_of_findSome?_eq_some h
  rw [Option.ite_none_right_eq_some, Option.some.injEq] at h
  exact ⟨term, hTerm, h⟩

/-- The matches depend only on how long the term is that stands in each place. -/
theorem spansFrom_congr {terms terms' : List (List Char)}
    (h : ∀ before rest, lengthAt? terms before rest = lengthAt? terms' before rest)
    (before : Option Char) (position skip : Nat) (text : List Char) :
    spansFrom terms before position skip text = spansFrom terms' before position skip text := by
  fun_induction spansFrom terms before position skip text with
  | case1 before position => rw [spansFrom, if_pos rfl, h]
  | case2 before position skip hSkip => rw [spansFrom, if_neg hSkip]
  | case3 before position skip c rest ih => rw [spansFrom, ih]
  | case4 before position c rest n hLength ih => simp only [spansFrom, ← h, hLength, ih]
  | case5 before position c rest hLength ih => simp only [spansFrom, ← h, hLength, ih]

/-- The matches in the rest of a text, of which `position` characters are read. -/
theorem mem_spansFrom {terms : List (List Char)} {before : Option Char} {position skip : Nat}
    {rest : List Char} {m : Span} (h : m ∈ spansFrom terms before position skip rest) :
    position ≤ m.start ∧ m.stop ≤ position + rest.length ∧
      ∃ term ∈ terms, m.stop = m.start + term.length := by
  have here : ∀ {n : Nat} {before : Option Char} {position : Nat} {rest : List Char},
      lengthAt? terms before rest = some n → m = ⟨position, position + n⟩ →
      position ≤ m.start ∧ m.stop ≤ position + rest.length ∧
        ∃ term ∈ terms, m.stop = m.start + term.length := by
    rintro n before position rest hLength rfl
    obtain ⟨term, hTerm, hStands, rfl⟩ := exists_of_lengthAt?_eq_some hLength
    exact ⟨Nat.le_refl _, Nat.add_le_add_left (length_le_of_standsAt hStands) _, term, hTerm, rfl⟩
  fun_induction spansFrom terms before position skip rest with
  | case1 before position =>
    obtain ⟨n, hn, rfl⟩ := List.mem_map.mp h
    exact here (Option.mem_toList.mp hn) rfl
  | case2 => cases h
  | case3 before position skip c rest ih =>
    obtain ⟨hStart, hStop, hTerm⟩ := ih h
    exact ⟨by omega, by simp only [List.length_cons]; omega, hTerm⟩
  | case4 before position c rest n hLength ih =>
    rcases List.mem_cons.mp h with rfl | h
    · exact here hLength rfl
    · obtain ⟨hStart, hStop, hTerm⟩ := ih h
      exact ⟨by omega, by simp only [List.length_cons]; omega, hTerm⟩
  | case5 before position c rest hLength ih =>
    obtain ⟨hStart, hStop, hTerm⟩ := ih h
    exact ⟨by omega, by simp only [List.length_cons]; omega, hTerm⟩

/-- Characters that a match has taken already belong to no other match. -/
theorem skip_le_of_mem_spansFrom {terms : List (List Char)} {before : Option Char} {position skip : Nat}
    {rest : List Char} {m : Span} (h : m ∈ spansFrom terms before position skip rest) :
    position + skip ≤ m.start := by
  fun_induction spansFrom terms before position skip rest with
  | case1 before position =>
    obtain ⟨n, -, rfl⟩ := List.mem_map.mp h
    exact Nat.le_refl _
  | case2 => cases h
  | case3 before position skip c rest ih =>
    have hLater := ih h
    omega
  | case4 before position c rest n hLength ih =>
    rcases List.mem_cons.mp h with rfl | h
    · exact Nat.le_refl _
    · have hLater := (mem_spansFrom h).1
      omega
  | case5 before position c rest hLength ih =>
    have hLater := ih h
    omega

theorem pairwise_spansFrom (terms : List (List Char)) (before : Option Char) (position skip : Nat)
    (rest : List Char) : (spansFrom terms before position skip rest).Pairwise fun a b => a.stop ≤ b.start := by
  fun_induction spansFrom terms before position skip rest with
  | case1 before position =>
    cases lengthAt? terms before [] with
    | none => exact .nil
    | some n => exact List.pairwise_singleton _ _
  | case2 => exact .nil
  | case3 before position skip c rest ih => exact ih
  | case4 before position c rest n hLength ih =>
    refine List.pairwise_cons.mpr ⟨fun m hm => ?_, ih⟩
    have hLater := skip_le_of_mem_spansFrom hm
    change position + n ≤ m.start
    omega
  | case5 before position c rest hLength ih => exact ih

theorem pairwise_spans (p : WordPattern) (text : List Char) :
    (p.spans text).Pairwise fun a b => a.stop ≤ b.start := pairwise_spansFrom _ _ _ _ _

theorem mem_spans_word {term : String} {text : List Char} {m : Span}
    (h : m ∈ (word term).spans text) :
    m.stop = m.start + term.toList.length ∧ m.stop ≤ text.length := by
  obtain ⟨_, hStop, t, ht, hLength⟩ := mem_spansFrom h
  rw [terms, List.mem_singleton] at ht
  exact ⟨ht ▸ hLength, by simpa using hStop⟩

theorem occursIn_word_iff {term : String} (hTerm : term.toList ≠ []) {text : String} :
    (word term).occursIn text = true ↔ ∃ m ∈ (word term).spans text.toList, m.start < m.stop := by
  rw [occursIn, Bool.not_eq_true', List.isEmpty_eq_false_iff_exists_mem]
  refine exists_congr fun m => ⟨fun hm => ⟨hm, ?_⟩, And.left⟩
  have hLength := List.length_pos_iff.mpr hTerm
  have hStop := (mem_spans_word hm).1
  omega

end WordPattern

end QuoteSearch
