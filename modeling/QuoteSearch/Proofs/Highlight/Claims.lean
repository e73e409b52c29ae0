import QuoteSearch.Highlight
import QuoteSearch.Proofs.Pattern.Spans
import QuoteSearch.Proofs.Text.Trim
import Mathlib.Data.List.Sort

/-! # Claimed stretches

Stretches are claimed one match after the other. What is claimed stays claimed, the claimed
stretches never overlap, and every match that could be claimed meets one of them. Sorted, they
follow one another through the text.
-/

namespace QuoteSearch.Highlight

structure IsClaim (length : Nat) (claimed : List Span) : Prop where
  nonempty : ∀ s ∈ claimed, s.start < s.stop
  bounded : ∀ s ∈ claimed, s.stop ≤ length
  disjoint : claimed.Pairwise fun a b => a.overlaps b = false

theorem overlaps_comm (a b : Span) : a.overlaps b = b.overlaps a := by
  simp only [Span.overlaps]
  exact Bool.and_comm _ _

theorem overlaps_self {s : Span} (h : s.start < s.stop) : s.overlaps s = true := by
  simp [Span.overlaps, h]

theorem lt_of_not_isEmpty {m : Span} (hOrder : m.start ≤ m.stop) (h : m.isEmpty = false) :
    m.start < m.stop := by
  simp only [Span.isEmpty, beq_eq_false_iff_ne, ne_eq] at h
  omega

/-- Claims a match, unless it is empty or overlaps something claimed. -/
def claimOne (claimed : List Span) (m : Span) : List Span :=
  if m.isEmpty || claimed.any m.overlaps then claimed else claimed ++ [m]

theorem claims_eq_foldl (content : List Char) (terms : List String) :
    claims content terms = (terms.flatMap (termSpans content)).foldl claimOne [] := by
  rw [List.foldl_flatMap]
  rfl

theorem prefix_claimOne (claimed : List Span) (m : Span) : claimed <+: claimOne claimed m := by
  unfold claimOne
  split
  · exact List.prefix_refl claimed
  · exact List.prefix_append claimed [m]

theorem IsClaim.claimOne {length : Nat} {claimed : List Span} (h : IsClaim length claimed) {m : Span}
    (hOrder : m.start ≤ m.stop) (hStop : m.stop ≤ length) : IsClaim length (claimOne claimed m) := by
  unfold Highlight.claimOne
  split
  · exact h
  · rename_i hFree
    simp only [Bool.not_eq_true, Bool.or_eq_false_iff, List.any_eq_false] at hFree
    obtain ⟨hEmpty, hFree⟩ := hFree
    have hLast : ∀ {p : Span → Prop}, (∀ s ∈ claimed, p s) → p m → ∀ s ∈ claimed ++ [m], p s := by
      intro p hp hm s hs
      rcases List.mem_append.mp hs with hs | hs
      · exact hp s hs
      · exact List.mem_singleton.mp hs ▸ hm
    refine ⟨hLast h.nonempty (lt_of_not_isEmpty hOrder hEmpty), hLast h.bounded hStop, ?_⟩
    refine List.pairwise_append.mpr ⟨h.disjoint, List.pairwise_singleton _ _, ?_⟩
    intro s hs t ht
    rw [List.mem_singleton.mp ht, overlaps_comm]
    exact Bool.not_eq_true _ ▸ hFree s hs

theorem exists_overlap_claimOne (claimed : List Span) {m : Span} (h : m.start < m.stop) :
    ∃ s ∈ claimOne claimed m, m.overlaps s = true := by
  have hEmpty : m.isEmpty = false := by
    simp only [Span.isEmpty, beq_eq_false_iff_ne, ne_eq]
    omega
  by_cases hMeets : claimed.any m.overlaps = true
  · obtain ⟨s, hs, hOverlaps⟩ := List.any_eq_true.mp hMeets
    exact ⟨s, (prefix_claimOne claimed m).subset hs, hOverlaps⟩
  · exact ⟨m, by simp [claimOne, hEmpty, hMeets], overlaps_self h⟩

theorem prefix_foldl_claimOne (claimed found : List Span) : claimed <+: found.foldl claimOne claimed := by
  induction found generalizing claimed with
  | nil => exact List.prefix_refl claimed
  | cons m found ih => exact (prefix_claimOne claimed m).trans (ih (claimOne claimed m))

theorem mem_of_mem_foldl_claimOne {claimed found : List Span} {s : Span}
    (h : s ∈ found.foldl claimOne claimed) : s ∈ claimed ∨ s ∈ found := by
  induction found generalizing claimed with
  | nil => exact .inl h
  | cons m found ih =>
    rcases ih h with hOne | hFound
    · unfold claimOne at hOne
      split at hOne
      · exact .inl hOne
      · rcases List.mem_append.mp hOne with hClaimed | hm
        · exact .inl hClaimed
        · exact .inr (List.mem_singleton.mp hm ▸ List.mem_cons_self)
    · exact .inr (List.mem_cons_of_mem m hFound)

theorem IsClaim.foldl {length : Nat} {claimed found : List Span} (h : IsClaim length claimed)
    (hFound : ∀ m ∈ found, m.start ≤ m.stop ∧ m.stop ≤ length) :
    IsClaim length (found.foldl Highlight.claimOne claimed) := by
  induction found generalizing claimed with
  | nil => exact h
  | cons m found ih =>
    obtain ⟨⟨hOrder, hStop⟩, hRest⟩ := List.forall_mem_cons.mp hFound
    exact ih (h.claimOne hOrder hStop) hRest

theorem exists_overlap_foldl {found : List Span} {m : Span} (hm : m ∈ found) (h : m.start < m.stop)
    (claimed : List Span) : ∃ s ∈ found.foldl claimOne claimed, m.overlaps s = true := by
  induction found generalizing claimed with
  | nil => cases hm
  | cons first found ih =>
    rcases List.mem_cons.mp hm with rfl | hm
    · obtain ⟨s, hs, hOverlaps⟩ := exists_overlap_claimOne claimed h
      exact ⟨s, (prefix_foldl_claimOne _ found).subset hs, hOverlaps⟩
    · exact ih hm _

theorem mem_termSpans {content : List Char} {term : String} {m : Span}
    (h : m ∈ termSpans content term) : m.start ≤ m.stop ∧ m.stop ≤ content.length := by
  simp only [termSpans] at h
  split at h
  · cases h
  · obtain ⟨hLength, hStop⟩ := WordPattern.mem_spans_word h
    exact ⟨by omega, hStop⟩

theorem termSpans_eq {term : String} (hTerm : Text.trimBlanks term.toList ≠ [])
    (hFits : (WordPattern.word term).fits = true) (content : List Char) :
    termSpans content term = (WordPattern.word term).spans content := by
  simp only [termSpans, Text.isEmpty_trim_eq_false hTerm, hFits, Bool.not_true, Bool.or_self,
    Bool.false_eq_true, if_false]

theorem isClaim_claims (content : List Char) (terms : List String) :
    IsClaim content.length (claims content terms) := by
  rw [claims_eq_foldl]
  refine IsClaim.foldl ⟨by simp, by simp, .nil⟩ ?_
  intro m hm
  obtain ⟨term, -, hm⟩ := List.mem_flatMap.mp hm
  exact mem_termSpans hm

theorem exists_claim_overlapping {content : List Char} {terms : List String} {term : String}
    (hTerm : term ∈ terms) {m : Span} (hm : m ∈ termSpans content term) (h : m.start < m.stop) :
    ∃ s ∈ claims content terms, m.overlaps s = true := by
  rw [claims_eq_foldl]
  exact exists_overlap_foldl (List.mem_flatMap.mpr ⟨term, hTerm, hm⟩) h []

/-- What is claimed is a match of one of the terms. -/
theorem exists_term_of_mem_claims {content : List Char} {terms : List String} {s : Span}
    (h : s ∈ claims content terms) : ∃ term ∈ terms, s ∈ termSpans content term := by
  rw [claims_eq_foldl] at h
  rcases mem_of_mem_foldl_claimOne h with hNone | hFound
  · cases hNone
  · exact List.mem_flatMap.mp hFound

theorem perm_markedSpans (content : List Char) (terms : List String) :
    (markedSpans content terms).Perm (claims content terms) := List.mergeSort_perm _ _

/-- Stretches that are not empty and follow one another between two positions. -/
def Laid (lower upper : Nat) : List Span → Prop
  | [] => lower ≤ upper
  | s :: rest => lower ≤ s.start ∧ s.start < s.stop ∧ Laid s.stop upper rest

theorem laid_of_pairwise {lower upper : Nat} {spans : List Span} (hBounds : lower ≤ upper)
    (hLower : ∀ s ∈ spans, lower ≤ s.start) (hNonempty : ∀ s ∈ spans, s.start < s.stop)
    (hUpper : ∀ s ∈ spans, s.stop ≤ upper) (h : spans.Pairwise fun a b => a.stop ≤ b.start) :
    Laid lower upper spans := by
  induction spans generalizing lower with
  | nil => exact hBounds
  | cons s rest ih =>
    obtain ⟨hFirst, hRest⟩ := List.pairwise_cons.mp h
    refine ⟨hLower s List.mem_cons_self, hNonempty s List.mem_cons_self, ?_⟩
    exact ih (hUpper s List.mem_cons_self) hFirst
      (fun t ht => hNonempty t (List.mem_cons_of_mem _ ht))
      (fun t ht => hUpper t (List.mem_cons_of_mem _ ht)) hRest

theorem pairwise_start_markedSpans (content : List Char) (terms : List String) :
    (markedSpans content terms).Pairwise fun a b => a.start ≤ b.start := by
  have hSort : (markedSpans content terms).Pairwise fun a b => decide (a.start ≤ b.start) = true := by
    apply List.pairwise_mergeSort
    · intro a b d
      simp only [decide_eq_true_eq]
      omega
    · intro a b
      simp only [Bool.or_eq_true, decide_eq_true_eq]
      omega
  exact hSort.imp of_decide_eq_true

theorem isClaim_markedSpans (content : List Char) (terms : List String) :
    IsClaim content.length (markedSpans content terms) := by
  have hClaim := isClaim_claims content terms
  have hPerm := perm_markedSpans content terms
  refine ⟨fun s hs => hClaim.nonempty s (hPerm.mem_iff.mp hs),
    fun s hs => hClaim.bounded s (hPerm.mem_iff.mp hs), ?_⟩
  exact hPerm.symm.pairwise hClaim.disjoint fun {a b} h => by rwa [overlaps_comm]

/-- Of two stretches that do not overlap the one that starts first also ends first. -/
theorem pairwise_markedSpans (content : List Char) (terms : List String) :
    (markedSpans content terms).Pairwise fun a b => a.stop ≤ b.start := by
  have hClaim := isClaim_markedSpans content terms
  refine ((pairwise_start_markedSpans content terms).and hClaim.disjoint).imp_of_mem ?_
  rintro a b ha hb ⟨hOrder, hApart⟩
  have hA := hClaim.nonempty a ha
  have hB := hClaim.nonempty b hb
  simp only [Span.overlaps, Bool.and_eq_false_iff, decide_eq_false_iff_not] at hApart
  omega

theorem laid_markedSpans (content : List Char) (terms : List String) :
    Laid 0 content.length (markedSpans content terms) := by
  have hClaim := isClaim_markedSpans content terms
  exact laid_of_pairwise (Nat.zero_le _) (fun s _ => Nat.zero_le _) hClaim.nonempty hClaim.bounded
    (pairwise_markedSpans content terms)

end QuoteSearch.Highlight
