import Mathlib
import QuoteSearch.Proofs.Pattern.LetterCase

/-! # Counting matches

How many matches several terms have together, against the matches of each term by itself. A scan
for one term that begins later finds no more than one that begins earlier, and at most one less as
long as it leaves out no more characters than the term has. A match of several terms is therefore
never paid for twice: it is charged to the term that it is a match of, and the scans for the others
lose nothing by going on behind it.
-/

namespace QuoteSearch.WordPattern

open Text

def matchCount (terms : List (List Char)) (before : Option Char) (position skip : Nat)
    (rest : List Char) : Nat :=
  (spansFrom terms before position skip rest).length

variable {terms : List (List Char)} {term : List Char} {before : Option Char} {position : Nat} {c : Char}
  {rest : List Char}

theorem lengthAt?_singleton : lengthAt? [term] before rest =
    if standsAt term before rest then some term.length else none := by
  rw [lengthAt?, List.findSome?_cons, List.findSome?_nil]
  split <;> simp_all

theorem lengthAt?_eq_none_iff :
    lengthAt? terms before rest = none ↔ ∀ term ∈ terms, standsAt term before rest = false := by
  simp only [lengthAt?, List.findSome?_eq_none_iff, ite_eq_right_iff, reduceCtorEq, imp_false,
    Bool.not_eq_true]

theorem standsAt_nil (hTerm : term ≠ []) : standsAt term before [] = false := by
  rw [← Bool.not_eq_true]
  intro h
  exact hTerm (List.length_eq_zero_iff.mp (Nat.le_zero.mp (length_le_of_standsAt h)))

theorem matchCount_nil (hTerms : ∀ term ∈ terms, term ≠ []) (skip : Nat) :
    matchCount terms before position skip [] = 0 := by
  have hNone : lengthAt? terms before [] = none :=
    lengthAt?_eq_none_iff.mpr fun term hTerm => standsAt_nil (hTerms term hTerm)
  rw [matchCount, spansFrom, hNone, Option.toList_none, List.map_nil, ite_self, List.length_nil]

@[simp]
theorem matchCount_skip (skip : Nat) : matchCount terms before position (skip + 1) (c :: rest) =
    matchCount terms (some c) (position + 1) skip rest := rfl

theorem matchCount_of_lengthAt? {n : Nat} (h : lengthAt? terms before (c :: rest) = some n) :
    matchCount terms before position 0 (c :: rest) =
      matchCount terms (some c) (position + 1) (n - 1) rest + 1 := by
  simp only [matchCount, spansFrom, h, List.length_cons]

theorem matchCount_of_none (h : lengthAt? terms before (c :: rest) = none) :
    matchCount terms before position 0 (c :: rest) = matchCount terms (some c) (position + 1) 0 rest := by
  simp only [matchCount, spansFrom, h]

theorem matchCount_of_standsAt (position : Nat) (h : standsAt term before (c :: rest) = true) :
    matchCount [term] before position 0 (c :: rest) =
      matchCount [term] (some c) (position + 1) (term.length - 1) rest + 1 :=
  matchCount_of_lengthAt? (by rw [lengthAt?_singleton, if_pos h])

theorem matchCount_of_not_standsAt (position : Nat) (h : standsAt term before (c :: rest) = false) :
    matchCount [term] before position 0 (c :: rest) =
      matchCount [term] (some c) (position + 1) 0 rest :=
  matchCount_of_none (by simp [lengthAt?_singleton, h])

/-- What a scan for one term loses by beginning later. -/
structure LosesLittle (term : List Char) (before : Option Char) (position : Nat) (rest : List Char) : Prop where
  antitone : ∀ j k, j ≤ k →
    matchCount [term] before position k rest ≤ matchCount [term] before position j rest
  atMostOne : ∀ k ≤ term.length,
    matchCount [term] before position 0 rest ≤ matchCount [term] before position k rest + 1

theorem losesLittle (hTerm : term ≠ []) (before : Option Char) (position : Nat) (rest : List Char) :
    LosesLittle term before position rest := by
  have hSingle : ∀ t ∈ [term], t ≠ [] := fun t ht => List.mem_singleton.mp ht ▸ hTerm
  induction rest generalizing before position with
  | nil =>
    constructor
    · intro j k _
      rw [matchCount_nil hSingle]
      apply Nat.zero_le
    · intro k _
      rw [matchCount_nil hSingle]
      apply Nat.zero_le
  | cons c rest ih =>
    obtain ⟨hAntitone, hAtMostOne⟩ := ih (some c) (position + 1)
    -- A match at the front may cost the scan one later match, but it is itself one.
    have hGain : ∀ k, matchCount [term] (some c) (position + 1) k rest ≤
        matchCount [term] before position 0 (c :: rest) := by
      intro k
      have hAny := hAntitone 0 k (Nat.zero_le k)
      cases hStands : standsAt term before (c :: rest) with
      | true =>
        rw [matchCount_of_standsAt position hStands]
        exact Nat.le_trans hAny (hAtMostOne _ (Nat.sub_le _ _))
      | false =>
        rw [matchCount_of_not_standsAt position hStands]
        exact hAny
    have hLoss : ∀ k < term.length, matchCount [term] before position 0 (c :: rest) ≤
        matchCount [term] (some c) (position + 1) k rest + 1 := by
      intro k hk
      cases hStands : standsAt term before (c :: rest) with
      | true =>
        rw [matchCount_of_standsAt position hStands]
        exact Nat.succ_le_succ (hAntitone k _ (Nat.le_sub_one_of_lt hk))
      | false =>
        rw [matchCount_of_not_standsAt position hStands]
        exact hAtMostOne k (Nat.le_of_lt hk)
    constructor
    · intro j k hLe
      cases k with
      | zero => rw [Nat.le_zero.mp hLe]
      | succ k =>
        cases j with
        | zero => exact hGain k
        | succ j => exact hAntitone j k (Nat.le_of_succ_le_succ hLe)
    · intro k hk
      cases k with
      | zero => apply Nat.le_succ
      | succ k => exact hLoss k hk

/-- Each match of several terms is a match of one of them, and the separate scans find as many. -/
theorem matchCount_le_sum (hTerms : ∀ term ∈ terms, term ≠ []) (before : Option Char)
    (position skip : Nat) (rest : List Char) : matchCount terms before position skip rest ≤
      (terms.map fun term => matchCount [term] before position skip rest).sum := by
  induction rest generalizing before position skip with
  | nil =>
    rw [matchCount_nil hTerms]
    apply Nat.zero_le
  | cons c rest ih =>
    cases skip with
    | succ skip => exact ih (some c) (position + 1) skip
    | zero =>
      cases hLength : lengthAt? terms before (c :: rest) with
      | none =>
        rw [matchCount_of_none hLength]
        refine Nat.le_trans (ih (some c) (position + 1) 0) (List.sum_le_sum fun term hTerm => ?_)
        rw [matchCount_of_not_standsAt position (lengthAt?_eq_none_iff.mp hLength term hTerm)]
      | some n =>
        obtain ⟨first, hFirst, hStands, rfl⟩ := exists_of_lengthAt?_eq_some hLength
        have hCovered : 1 ≤ first.length := List.length_pos_iff.mpr (hTerms first hFirst)
        rw [matchCount_of_lengthAt? hLength]
        refine Nat.lt_of_le_of_lt (ih (some c) (position + 1) (first.length - 1))
          (List.sum_lt_sum _ _ ?_ ⟨first, hFirst, ?_⟩)
        · intro term hTerm
          have hLater := (losesLittle (hTerms term hTerm) before position (c :: rest)).antitone 0
            first.length (Nat.zero_le _)
          rwa [← Nat.sub_add_cancel hCovered, matchCount_skip] at hLater
        · rw [matchCount_of_standsAt position hStands]
          exact Nat.lt_succ_self _

theorem matchCount_eq_zero_iff (terms : List (List Char)) (before : Option Char) (position : Nat)
    (rest : List Char) :
    matchCount terms before position 0 rest = 0 ↔
      ∀ term ∈ terms, matchCount [term] before position 0 rest = 0 := by
  induction rest generalizing before position with
  | nil => simp [matchCount, spansFrom, lengthAt?_eq_none_iff]
  | cons c rest ih =>
    cases hLength : lengthAt? terms before (c :: rest) with
    | none =>
      have hStands := lengthAt?_eq_none_iff.mp hLength
      rw [matchCount_of_none hLength, ih]
      refine forall₂_congr fun term hTerm => ?_
      rw [matchCount_of_not_standsAt position (hStands term hTerm)]
    | some n =>
      obtain ⟨first, hFirst, hStands, -⟩ := exists_of_lengthAt?_eq_some hLength
      rw [matchCount_of_lengthAt? hLength]
      refine ⟨fun h => absurd h (Nat.succ_ne_zero _), fun h => ?_⟩
      have hNone := h first hFirst
      rw [matchCount_of_standsAt position hStands] at hNone
      exact absurd hNone (Nat.succ_ne_zero _)

theorem lengthAt?_append_of_lowered {t : List Char} (hTerm : term ∈ terms)
    (h : lowered t = lowered term) (before : Option Char) (rest : List Char) :
    lengthAt? (terms ++ [t]) before rest = lengthAt? terms before rest := by
  have hSame : standsAt t before rest = standsAt term before rest := by
    rw [← standsAt_lowered, h, standsAt_lowered]
  rw [lengthAt?, List.findSome?_append]
  change (lengthAt? terms before rest).or (lengthAt? [t] before rest) = _
  cases hLength : lengthAt? terms before rest with
  | some n => rfl
  | none =>
    rw [lengthAt?_singleton, hSame, lengthAt?_eq_none_iff.mp hLength term hTerm]
    rfl

theorem occursIn_eq_false_iff (p : WordPattern) (text : String) :
    p.occursIn text = false ↔ matchCount p.terms none 0 0 text.toList = 0 := by
  rw [occursIn, Bool.not_eq_false', List.isEmpty_iff_length_eq_zero, matchCount, spans]

theorem occursIn_anyOf_eq_false_iff (words : List String) (text : String) :
    (anyOf words).occursIn text = false ↔ ∀ w ∈ words, (word w).occursIn text = false := by
  rw [occursIn_eq_false_iff, terms, matchCount_eq_zero_iff, List.forall_mem_map]
  simp only [occursIn_eq_false_iff, terms]

theorem length_spans_anyOf_le {words : List String} (hWords : ∀ w ∈ words, w ≠ "") (text : List Char) :
    ((anyOf words).spans text).length ≤ (words.map fun w => ((word w).spans text).length).sum := by
  have hTerms : ∀ term ∈ words.map String.toList, term ≠ [] :=
    List.forall_mem_map.mpr fun w hw => mt String.toList_eq_nil_iff.mp (hWords w hw)
  have hSum := matchCount_le_sum hTerms none 0 0 text
  rwa [List.map_map] at hSum

theorem spans_anyOf_append_of_toLower {words : List String} {member w : String} (hMember : member ∈ words)
    (h : w.toLower = member.toLower) (text : List Char) :
    (anyOf (words ++ [w])).spans text = (anyOf words).spans text := by
  have hLowered : lowered w.toList = lowered member.toList := by
    rw [← toList_toLower, h, toList_toLower]
  rw [spans, terms, List.map_append]
  exact spansFrom_congr
    (lengthAt?_append_of_lowered (List.mem_map_of_mem hMember) hLowered) none 0 0 text

/-- A pattern that is part of another one has the smaller matcher. -/
theorem fits_word_of_anyOf {words : List String} {w : String} (hw : w ∈ words)
    (h : (anyOf words).fits = true) : (word w).fits = true := by
  have hPart : (word w).terms.flatten.Sublist (anyOf words).terms.flatten := by
    rw [terms, terms, List.flatten_singleton]
    exact List.sublist_flatten_of_mem (List.mem_map_of_mem hw)
  have hSize : ∀ p : WordPattern, p.matcherSize = (p.terms.flatten.map characterSize).sum := by
    intro p
    rw [matcherSize, List.sum_eq_foldl, List.foldl_map]
  simp only [fits, Bool.or_eq_true, decide_eq_true_eq, hSize] at h ⊢
  refine h.imp (fun hLength => ?_) (fun hSum => ?_)
  · exact Nat.le_trans (Nat.mul_le_mul_right _ hPart.length_le) hLength
  · exact Nat.le_trans ((hPart.map characterSize).sum_le_sum fun _ _ => Nat.zero_le _) hSum

/-- The words that a pattern for any of them holds. -/
def members (words : List String) : List String := (words.map trim).filter fun t => !t.isEmpty

theorem anyOf?_eq (words : List String) :
    anyOf? words = if members words = [] then none else some (.anyOf (members words)) := by
  rw [anyOf?, ← members]
  cases members words <;> rfl

theorem members_append_of_blank {w : String} (h : trim w = "") (words : List String) :
    members (words ++ [w]) = members words := by
  simp [members, h]

theorem members_append_of_nonblank {w : String} (h : trim w ≠ "") (words : List String) :
    members (words ++ [w]) = members words ++ [trim w] := by
  simp [members, h]

theorem ne_empty_of_mem_members {words : List String} {w : String} (h : w ∈ members words) : w ≠ "" := by
  simpa using (List.mem_filter.mp h).2

end QuoteSearch.WordPattern
