import QuoteSearch.Proofs.Pattern.Places

/-! # Leftmost matches

A search takes the first match in the text, then the first one that begins behind it, and so on. The
matches of a pattern are taken in this way, and for a single term the stretches that it takes them
from are those that read like the term and have a word beginning or ending at both ends.
-/

namespace QuoteSearch

/-- What a search takes that goes on from a position. A match takes up its characters, and at least
the one that it begins with. -/
inductive TakesLeftmost (IsMatch : Span → Prop) : Nat → List Span → Prop
  | none {position : Nat} : (∀ m, IsMatch m → m.start < position) → TakesLeftmost IsMatch position []
  | next {position : Nat} {first : Span} {later : List Span} : IsMatch first → position ≤ first.start →
    (∀ m, IsMatch m → position ≤ m.start → first.start ≤ m.start) →
    TakesLeftmost IsMatch (max (first.start + 1) first.stop) later →
    TakesLeftmost IsMatch position (first :: later)

namespace TakesLeftmost

variable {IsMatch : Span → Prop} {position : Nat} {found other : List Span}

theorem of_succ (h : TakesLeftmost IsMatch (position + 1) found) (hNone : ∀ m, IsMatch m → m.start ≠ position) :
    TakesLeftmost IsMatch position found := by
  cases h with
  | none hBefore =>
    refine .none fun m hm => ?_
    have hStart := hBefore m hm
    have hNe := hNone m hm
    omega
  | next hMatch hStart hFirst hLater =>
    refine .next hMatch (Nat.le_of_succ_le hStart) (fun m hm hm' => hFirst m hm ?_) hLater
    have hNe := hNone m hm
    omega

/-- If only one match begins at each position, a search has one outcome. -/
theorem unique (hOne : ∀ m m', IsMatch m → IsMatch m' → m.start = m'.start → m = m')
    (h : TakesLeftmost IsMatch position found) (hOther : TakesLeftmost IsMatch position other) : found = other := by
  induction h generalizing other with
  | none hBefore =>
    cases hOther with
    | none => rfl
    | next hMatch hStart => exact absurd (hBefore _ hMatch) (Nat.not_lt.mpr hStart)
  | next hMatch hStart hFirst _ ih =>
    cases hOther with
    | none hBefore => exact absurd (hBefore _ hMatch) (Nat.not_lt.mpr hStart)
    | next hMatch' hStart' hFirst' hLater' =>
      obtain rfl := hOne _ _ hMatch hMatch'
        (Nat.le_antisymm (hFirst _ hMatch' hStart') (hFirst' _ hMatch hStart))
      rw [ih hLater']

end TakesLeftmost

/-- A stretch that begins where `lengthAt` finds a match and is as long as it says. -/
def MatchesAt (lengthAt : Option Char → List Char → Option Nat) (text : List Char) (m : Span) : Prop :=
  ∃ before after n, text = before ++ after ∧ lengthAt before.getLast? after = some n ∧
    m = ⟨before.length, before.length + n⟩

theorem eq_of_matchesAt {lengthAt : Option Char → List Char → Option Nat} {text : List Char} {m m' : Span}
    (h : MatchesAt lengthAt text m) (h' : MatchesAt lengthAt text m') (hStart : m.start = m'.start) : m = m' := by
  obtain ⟨before, after, n, rfl, hLength, rfl⟩ := h
  obtain ⟨before', after', n', hText, hLength', rfl⟩ := h'
  obtain ⟨rfl, rfl⟩ := List.append_inj hText hStart
  rw [hLength, Option.some.injEq] at hLength'
  rw [hLength']

namespace WordPattern

open Text

variable {terms : List (List Char)} {term front rest : List Char}

theorem start_le_of_matchesAt {text : List Char} {m : Span} (h : MatchesAt (lengthAt? terms) text m) :
    m.start ≤ text.length := by
  obtain ⟨before, after, n, rfl, -, rfl⟩ := h
  simp

theorem start_ne_of_matchesAt (hNone : lengthAt? terms front.getLast? rest = none) (m : Span)
    (h : MatchesAt (lengthAt? terms) (front ++ rest) m) : m.start ≠ front.length := by
  rintro hStart
  obtain ⟨before, after, n, hText, hLength, rfl⟩ := h
  obtain ⟨rfl, rfl⟩ := List.append_inj hText hStart.symm
  rw [hNone] at hLength
  cases hLength

/-- The matches in the rest of a text, of which `front` is read and `skip` further characters are taken. -/
theorem takesLeftmost_spansFrom (front : List Char) (skip : Nat) (rest : List Char) :
    TakesLeftmost (MatchesAt (lengthAt? terms) (front ++ rest)) (front.length + skip)
      (spansFrom terms front.getLast? front.length skip rest) := by
  induction rest generalizing front skip with
  | nil =>
    have hEnd : ∀ {position : Nat}, front.length < position →
        TakesLeftmost (MatchesAt (lengthAt? terms) (front ++ [])) position [] := fun h =>
      .none fun m hm => Nat.lt_of_le_of_lt (start_le_of_matchesAt hm) (by simpa using h)
    cases skip with
    | succ skip => exact hEnd (Nat.lt_add_of_pos_right (Nat.succ_pos skip))
    | zero =>
      rw [spansFrom, if_pos rfl]
      cases hLength : lengthAt? terms front.getLast? [] with
      | none => exact .of_succ (hEnd (Nat.lt_succ_self _)) (start_ne_of_matchesAt hLength)
      | some n =>
        refine .next ⟨front, [], n, rfl, hLength, rfl⟩ (Nat.le_refl _) (fun _ _ h => h) (hEnd ?_)
        exact Nat.lt_of_lt_of_le (Nat.lt_succ_self _) (Nat.le_max_left _ _)
  | cons c rest ih =>
    have hLater : ∀ k, TakesLeftmost (MatchesAt (lengthAt? terms) (front ++ c :: rest)) (front.length + 1 + k)
        (spansFrom terms (some c) (front.length + 1) k rest) := by
      intro k
      simpa using ih (front ++ [c]) k
    cases skip with
    | succ skip =>
      have hPosition : front.length + 1 + skip = front.length + (skip + 1) := by omega
      exact hPosition ▸ hLater skip
    | zero =>
      rw [spansFrom]
      cases hLength : lengthAt? terms front.getLast? (c :: rest) with
      | none => exact .of_succ (hLater 0) (start_ne_of_matchesAt hLength)
      | some n =>
        refine .next ⟨front, c :: rest, n, rfl, hLength, rfl⟩ (Nat.le_refl _) (fun _ _ h => h) ?_
        have hBehind : max (front.length + 1) (front.length + n) = front.length + 1 + (n - 1) := by omega
        exact hBehind ▸ hLater (n - 1)

theorem takesLeftmost_spans (p : WordPattern) (text : List Char) :
    TakesLeftmost (MatchesAt (lengthAt? p.terms) text) 0 (p.spans text) := takesLeftmost_spansFrom [] 0 text

theorem takesLeftmost_iff {p : WordPattern} {text : List Char} {found : List Span} :
    TakesLeftmost (MatchesAt (lengthAt? p.terms) text) 0 found ↔ p.spans text = found :=
  ⟨fun h => (takesLeftmost_spans p text).unique (fun _ _ => eq_of_matchesAt) h,
    fun h => h ▸ takesLeftmost_spans p text⟩

def isBoundaryAt (text : List Char) (i : Nat) : Bool := isBoundary (text.take i).getLast? (text.drop i).head?

/-- A stretch of a text that reads like the term and has a word beginning or ending at both ends. -/
structure IsRange (term text : List Char) (m : Span) : Prop where
  ordered : m.start ≤ m.stop
  inside : m.stop ≤ text.length
  reads : (m.slice text).map letter = term.map letter
  atStart : isBoundaryAt text m.start = true
  atStop : isBoundaryAt text m.stop = true

theorem isRange_append_iff :
    IsRange term (front ++ rest) ⟨front.length, front.length + term.length⟩ ↔
      standsAt term front.getLast? rest = true := by
  have hTake : (front ++ rest).take (front.length + term.length) = front ++ rest.take term.length :=
    List.take_length_add_append _
  have hSlice : Span.slice ⟨front.length, front.length + term.length⟩ (front ++ rest) = rest.take term.length := by
    rw [Span.slice, hTake, List.drop_left]
  have hStart : isBoundaryAt (front ++ rest) front.length = isBoundary front.getLast? rest.head? := by
    rw [isBoundaryAt, List.take_left, List.drop_left]
  have hStop : isBoundaryAt (front ++ rest) (front.length + term.length) =
      isBoundary ((rest.take term.length).getLast?.or front.getLast?) (rest.drop term.length).head? := by
    rw [isBoundaryAt, hTake, List.getLast?_append, List.drop_length_add_append]
  simp only [standsAt, Bool.and_eq_true, beginsWith_iff_map_letter, ← hStart, ← hStop]
  constructor
  · rintro ⟨-, -, hReads, hAtStart, hAtStop⟩
    rw [hSlice] at hReads
    refine ⟨⟨hAtStart, ?_⟩, hAtStop⟩
    rw [← hReads]
    exact (List.take_prefix _ _).map letter
  · rintro ⟨⟨hAtStart, hReads⟩, hAtStop⟩
    have hLength := hReads.length_le
    rw [List.length_map, List.length_map] at hLength
    refine ⟨Nat.le_add_right _ _, ?_, ?_, hAtStart, hAtStop⟩
    · rw [List.length_append]
      exact Nat.add_le_add_left hLength _
    · rw [hSlice, List.map_take, List.prefix_iff_eq_take.mp hReads, List.length_map]

theorem isRange_iff {text : List Char} {m : Span} :
    IsRange term text m ↔ MatchesAt (lengthAt? [term]) text m := by
  constructor
  · intro h
    obtain ⟨front, rest, rfl, hStart⟩ : ∃ front rest, text = front ++ rest ∧ m.start = front.length :=
      ⟨text.take m.start, text.drop m.start, (List.take_append_drop _ _).symm,
        (List.length_take_of_le (Nat.le_trans h.ordered h.inside)).symm⟩
    have hLength := congrArg List.length h.reads
    rw [List.length_map, List.length_map, Span.slice, List.length_drop, List.length_take_of_le h.inside] at hLength
    have hStop : m.stop = m.start + term.length := by
      rw [← hLength, Nat.add_sub_cancel' h.ordered]
    obtain rfl : m = ⟨front.length, front.length + term.length⟩ := by
      rw [← hStart, ← hStop]
    refine ⟨front, rest, term.length, rfl, ?_, rfl⟩
    simp [lengthAt?, isRange_append_iff.mp h]
  · rintro ⟨before, after, n, rfl, hLength, rfl⟩
    obtain ⟨t, ht, hStands, rfl⟩ := exists_of_lengthAt?_eq_some hLength
    obtain rfl := List.mem_singleton.mp ht
    exact isRange_append_iff.mpr hStands

end WordPattern

end QuoteSearch
