import QuoteSearch.Proofs.Highlight.Claims
import QuoteSearch.Proofs.Pattern.LetterCase

/-! # Claiming is greedy

Terms claim their matches in turn. What is claimed for the first of them stays claimed whatever
terms follow, every match meets something claimed, and a match that meets nothing claimed for the
terms before its own is claimed itself. A term whose matches are all met already adds nothing.
-/

namespace QuoteSearch.Highlight

open WordPattern

variable {claimed found : List Span} {content : List Char} {terms : List String} {term : String} {m : Span}

theorem claimOne_of_free (hNonempty : m.start < m.stop) (hFree : ∀ s ∈ claimed, m.overlaps s = false) :
    claimOne claimed m = claimed ++ [m] := by
  have hEmpty : m.isEmpty = false := by
    simp only [Span.isEmpty, beq_eq_false_iff_ne, ne_eq]
    omega
  have hMeets : claimed.any m.overlaps = false := by simpa [List.any_eq_false] using hFree
  rw [claimOne, hEmpty, hMeets, Bool.or_false, if_neg Bool.false_ne_true]

theorem claimOne_of_met (hMet : ∃ s ∈ claimed, m.overlaps s = true) : claimOne claimed m = claimed := by
  rw [claimOne, List.any_eq_true.mpr hMet, Bool.or_true, if_pos rfl]

theorem foldl_claimOne_of_met (h : ∀ m ∈ found, ∃ s ∈ claimed, m.overlaps s = true) :
    found.foldl claimOne claimed = claimed := by
  induction found with
  | nil => rfl
  | cons m found ih =>
    obtain ⟨hFirst, hRest⟩ := List.forall_mem_cons.mp h
    rw [List.foldl_cons, claimOne_of_met hFirst, ih hRest]

/-- Of matches that do not overlap each is claimed unless it meets what was claimed before them. -/
theorem mem_foldl_claimOne_of_free (hm : m ∈ found) (hNonempty : m.start < m.stop)
    (hApart : found.Pairwise fun a b => a.overlaps b = false) (hFree : ∀ s ∈ claimed, m.overlaps s = false) :
    m ∈ found.foldl claimOne claimed := by
  induction found generalizing claimed with
  | nil => cases hm
  | cons first found ih =>
    obtain ⟨hFirst, hRest⟩ := List.pairwise_cons.mp hApart
    rw [List.foldl_cons]
    cases hm with
    | head =>
      apply (prefix_foldl_claimOne _ found).subset
      rw [claimOne_of_free hNonempty hFree]
      exact List.mem_append_right _ (List.mem_singleton_self m)
    | tail _ hm =>
      apply ih hm hRest
      intro s hs
      -- What is new is the first match, which the later one does not meet.
      have hNew : s ∈ [first].foldl claimOne claimed := hs
      rcases mem_of_mem_foldl_claimOne hNew with hs | hs
      · exact hFree s hs
      · rw [List.mem_singleton.mp hs, overlaps_comm]
        exact hFirst m hm

theorem claims_append (content : List Char) (front back : List String) :
    claims content (front ++ back) = (back.flatMap (termSpans content)).foldl claimOne (claims content front) := by
  rw [claims_eq_foldl, List.flatMap_append, List.foldl_append, ← claims_eq_foldl]

theorem prefix_claims_append (content : List Char) (front back : List String) :
    claims content front <+: claims content (front ++ back) := by
  rw [claims_append]
  exact prefix_foldl_claimOne _ _

theorem mem_termSpans_iff (hFits : (word term).fits = true) :
    m ∈ termSpans content term ↔ Text.trim term ≠ "" ∧ m ∈ (word term).spans content := by
  rw [termSpans, hFits, Bool.not_true, Bool.or_false, List.mem_ite_nil_left, String.isEmpty_iff]

theorem nonempty_of_mem_termSpans (h : m ∈ termSpans content term) : m.start < m.stop := by
  rw [termSpans, List.mem_ite_nil_left, Bool.or_eq_true, not_or, String.isEmpty_iff] at h
  obtain ⟨⟨hTerm, -⟩, hm⟩ := h
  have hLength := List.length_pos_iff.mpr (Text.ne_nil_of_trimBlanks_ne_nil (Text.trimBlanks_ne_nil hTerm))
  have hStop := (mem_spans_word hm).1
  omega

theorem pairwise_termSpans (content : List Char) (term : String) :
    (termSpans content term).Pairwise fun a b => a.overlaps b = false := by
  rw [termSpans]
  split
  · exact .nil
  · apply (pairwise_spans _ content).imp
    intro a b hApart
    rw [Span.overlaps, decide_eq_false (Nat.not_lt.mpr hApart), Bool.and_false]

theorem mem_claims_of_free {before after : List String} (hm : m ∈ termSpans content term)
    (hFree : ∀ s ∈ claims content before, m.overlaps s = false) :
    m ∈ claims content (before ++ term :: after) := by
  have hOwn : m ∈ claims content (before ++ [term]) := by
    rw [claims_append, List.flatMap_singleton]
    exact mem_foldl_claimOne_of_free hm (nonempty_of_mem_termSpans hm) (pairwise_termSpans content term) hFree
  rw [← List.singleton_append, ← List.append_assoc]
  exact (prefix_claims_append content _ after).subset hOwn

theorem claims_append_of_met (h : ∀ m ∈ termSpans content term, ∃ s ∈ claims content terms, m.overlaps s = true) :
    claims content (terms ++ [term]) = claims content terms := by
  rw [claims_append, List.flatMap_singleton, foldl_claimOne_of_met h]

theorem claims_append_of_mem {again : String} (hTerm : term ∈ terms) (hCase : again.toLower = term.toLower) :
    claims content (terms ++ [again]) = claims content terms := by
  apply claims_append_of_met
  intro m hm
  rw [← termSpans_toLower, hCase, termSpans_toLower] at hm
  exact exists_claim_overlapping hTerm hm (nonempty_of_mem_termSpans hm)

theorem claims_append_of_blank (hBlank : Text.trim term = "") :
    claims content (terms ++ [term]) = claims content terms := by
  apply claims_append_of_met
  intro m hm
  rw [termSpans, hBlank] at hm
  cases hm

theorem highlight_congr {text : String} {others : List String}
    (h : claims text.toList others = claims text.toList terms) : highlight text others = highlight text terms := by
  rw [highlight, highlightChars, pieces, markedSpans, h]
  rfl

theorem mem_markedSpans {s : Span} : s ∈ markedSpans content terms ↔ s ∈ claims content terms :=
  (perm_markedSpans content terms).mem_iff

/-- The stretches to mark, counted in bytes. -/
def markedBytes (content : String) (terms : List String) : List Span :=
  Span.toBytes content.toList (markedSpans content.toList terms)

theorem markedBytes_eq (text : String) (terms : List String) :
    markedBytes text terms = (markedSpans text.toList terms).map fun s =>
      ⟨(String.ofList (text.toList.take s.start)).utf8ByteSize,
        (String.ofList (text.toList.take s.stop)).utf8ByteSize⟩ := by
  have hClaim := isClaim_markedSpans text.toList terms
  apply Span.toBytes_eq
  intro s hs
  have hNonempty := hClaim.nonempty s hs
  have hStop := hClaim.bounded s hs
  omega

/-- What the terms claim in a text. A stretch begins and ends between characters of the text, each
is a match of a term, and the earlier terms come first. -/
structure ClaimsGreedily (content : String) (terms : List String) : Prop where
  bounds : ∀ b ∈ markedBytes content terms, ∃ before inside after : String,
    content = before ++ inside ++ after ∧ inside ≠ "" ∧
      b.start = before.utf8ByteSize ∧ b.stop = before.utf8ByteSize + inside.utf8ByteSize
  ordered : (markedBytes content terms).Pairwise fun a b => a.start < b.start ∧ a.stop ≤ b.start
  matched : ∀ s ∈ markedSpans content.toList terms,
    ∃ term ∈ terms, Text.trim term ≠ "" ∧ s ∈ (word term).spans content.toList
  maximal : ∀ term ∈ terms, Text.trim term ≠ "" → ∀ m ∈ (word term).spans content.toList,
    ∃ s ∈ markedSpans content.toList terms, m.overlaps s = true
  firstWins : ∀ before term after, terms = before ++ term :: after → Text.trim term ≠ "" →
    ∀ m ∈ (word term).spans content.toList,
      (∀ s ∈ markedSpans content.toList before, m.overlaps s = false) → m ∈ markedSpans content.toList terms
  stable : ∀ front back, terms = front ++ back →
    ∀ s ∈ markedSpans content.toList front, s ∈ markedSpans content.toList terms
  repeated : ∀ term ∈ terms, ∀ again : String, again.toLower = term.toLower →
    highlight content (terms ++ [again]) = highlight content terms
  blank : ∀ term, Text.trim term = "" → highlight content (terms ++ [term]) = highlight content terms

theorem bounds_markedBytes {text : String} {b : Span} (h : b ∈ markedBytes text terms) :
    ∃ before inside after : String, text = before ++ inside ++ after ∧ inside ≠ "" ∧
      b.start = before.utf8ByteSize ∧ b.stop = before.utf8ByteSize + inside.utf8ByteSize := by
  have hClaim := isClaim_markedSpans text.toList terms
  rw [markedBytes_eq] at h
  obtain ⟨s, hs, rfl⟩ := List.mem_map.mp h
  obtain ⟨k, hk⟩ := Nat.exists_eq_add_of_lt (hClaim.nonempty s hs)
  have hStop := hClaim.bounded s hs
  have hUpTo : text.toList.take s.stop = text.toList.take s.start ++ (text.toList.drop s.start).take (k + 1) := by
    rw [hk, Nat.add_assoc, List.take_add]
  refine ⟨String.ofList (text.toList.take s.start), String.ofList ((text.toList.drop s.start).take (k + 1)),
    String.ofList (text.toList.drop s.stop), ?_, ?_, rfl, ?_⟩
  · rw [← String.ofList_append, ← hUpTo, ← String.ofList_append, List.take_append_drop, String.ofList_toList]
  · rw [ne_eq, String.ofList_eq_empty_iff, ← List.length_eq_zero_iff, List.length_take, List.length_drop]
    omega
  · rw [hUpTo, String.ofList_append, String.utf8ByteSize_append]

theorem ordered_markedBytes (text : String) (terms : List String) :
    (markedBytes text terms).Pairwise fun a b => a.start < b.start ∧ a.stop ≤ b.start := by
  have hClaim := isClaim_markedSpans text.toList terms
  rw [markedBytes_eq, List.pairwise_map]
  refine (pairwise_markedSpans text.toList terms).imp_of_mem ?_
  intro a b ha hb hOrder
  have hA := hClaim.nonempty a ha
  have hB := hClaim.nonempty b hb
  have hStop := hClaim.bounded b hb
  constructor
  · exact utf8ByteSize_take_lt (hA.trans_le hOrder) (by omega)
  · rcases Nat.eq_or_lt_of_le hOrder with hEq | hLess
    · exact Nat.le_of_eq (by rw [hEq])
    · exact (utf8ByteSize_take_lt hLess (by omega)).le

/-- Whatever the terms are, their claims do not overlap, leave out no match that they could have
and depend on the later terms only in what these add. -/
theorem terms_claim_greedily (content : String) (terms : List String)
    (hFits : ∀ term ∈ terms, (word term).fits = true) : ClaimsGreedily content terms where
  bounds b hb := bounds_markedBytes hb
  ordered := ordered_markedBytes content terms
  matched s hs := by
    obtain ⟨term, hTerm, hMatch⟩ := exists_term_of_mem_claims (mem_markedSpans.mp hs)
    exact ⟨term, hTerm, (mem_termSpans_iff (hFits term hTerm)).mp hMatch⟩
  maximal term hTerm hBlank m hm := by
    have hMatch := (mem_termSpans_iff (hFits term hTerm)).mpr ⟨hBlank, hm⟩
    obtain ⟨s, hs, hMeets⟩ := exists_claim_overlapping hTerm hMatch (nonempty_of_mem_termSpans hMatch)
    exact ⟨s, mem_markedSpans.mpr hs, hMeets⟩
  firstWins := by
    rintro before term after rfl hBlank m hm hFree
    have hMatch := (mem_termSpans_iff (hFits term (by simp))).mpr ⟨hBlank, hm⟩
    exact mem_markedSpans.mpr (mem_claims_of_free hMatch fun s hs => hFree s (mem_markedSpans.mpr hs))
  stable := by
    rintro front back rfl s hs
    exact mem_markedSpans.mpr ((prefix_claims_append _ front back).subset (mem_markedSpans.mp hs))
  repeated term hTerm again hCase := highlight_congr (claims_append_of_mem hTerm hCase)
  blank term hBlank := highlight_congr (claims_append_of_blank hBlank)

/-- The longer term comes too late for the place, though it would take more of it. -/
theorem sample_terms_claim_greedily :
    (∀ term ∈ ["Legends", " ", "League of Legends"], (word term).fits = true) ∧
      claims "League of Legends".toList ["Legends", " ", "League of Legends"] = [⟨10, 17⟩] ∧
      ClaimsGreedily "League of Legends" ["Legends", " ", "League of Legends"] := by
  have hFits : ∀ term ∈ ["Legends", " ", "League of Legends"], (word term).fits = true := by decide +kernel
  exact ⟨hFits, by decide +kernel, terms_claim_greedily _ _ hFits⟩

end QuoteSearch.Highlight
