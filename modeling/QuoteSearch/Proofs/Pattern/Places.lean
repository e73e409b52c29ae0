import QuoteSearch.Proofs.Pattern.Spans
import Mathlib.Data.List.Basic

/-! # Where terms stand

The matches of a pattern lie at places of the text where one of its terms stands, and a pattern has
a match as soon as there is such a place. There the text reads like the term.
-/

namespace QuoteSearch

namespace Text

theorem beginsWith_iff_map_letter {term text : List Char} :
    beginsWith term text = true ↔ term.map letter <+: text.map letter := by
  induction term generalizing text with
  | nil => simp [beginsWith]
  | cons a term ih =>
    cases text with
    | nil => simp [beginsWith]
    | cons b text =>
      rw [beginsWith, Bool.and_eq_true, sameLetter_iff, ih, List.map_cons, List.map_cons, List.cons_prefix_cons]

end Text

namespace WordPattern

open Text

variable {terms : List (List Char)} {front rest : List Char} {m : Span}

/-- One of the terms stands in the text and takes up the stretch. -/
def IsPlace (terms : List (List Char)) (text : List Char) (m : Span) : Prop :=
  ∃ before after, text = before ++ after ∧ m.start = before.length ∧
    ∃ term ∈ terms, standsAt term before.getLast? after = true ∧ m.stop = m.start + term.length

theorem isPlace_of_lengthAt? {n : Nat} (h : lengthAt? terms front.getLast? rest = some n) :
    IsPlace terms (front ++ rest) ⟨front.length, front.length + n⟩ := by
  obtain ⟨term, hTerm, hStands, rfl⟩ := exists_of_lengthAt?_eq_some h
  exact ⟨front, rest, rfl, rfl, term, hTerm, hStands, rfl⟩

/-- The matches in the rest of a text, of which `front` is read. -/
theorem isPlace_of_mem_spansFrom (front : List Char) {skip : Nat}
    (h : m ∈ spansFrom terms front.getLast? front.length skip rest) : IsPlace terms (front ++ rest) m := by
  induction rest generalizing front skip with
  | nil =>
    rw [spansFrom] at h
    split at h
    · obtain ⟨n, hn, rfl⟩ := List.mem_map.mp h
      exact isPlace_of_lengthAt? (Option.mem_toList.mp hn)
    · cases h
  | cons c rest ih =>
    have hLater : ∀ {k : Nat}, m ∈ spansFrom terms (some c) (front.length + 1) k rest →
        IsPlace terms (front ++ c :: rest) m := by
      intro k hMem
      have hRead : m ∈ spansFrom terms (front ++ [c]).getLast? (front ++ [c]).length k rest := by simpa using hMem
      simpa using ih (front ++ [c]) hRead
    cases skip with
    | succ skip => exact hLater h
    | zero =>
      rw [spansFrom] at h
      split at h
      · rename_i n hLength
        rcases List.mem_cons.mp h with rfl | h
        · exact isPlace_of_lengthAt? hLength
        · exact hLater h
      · exact hLater h

theorem spansFrom_ne_nil (front : List Char) {before after term : List Char} (hTerm : term ∈ terms)
    (h : standsAt term (front ++ before).getLast? after = true) :
    spansFrom terms front.getLast? front.length 0 (before ++ after) ≠ [] := by
  induction before generalizing front with
  | nil =>
    rw [List.append_nil] at h
    have hLength : lengthAt? terms front.getLast? after ≠ none := by
      rw [lengthAt?, ne_eq, List.findSome?_eq_none_iff]
      intro hNone
      simpa [h] using hNone term hTerm
    obtain ⟨n, hn⟩ := Option.ne_none_iff_exists'.mp hLength
    cases after with
    | nil => simp [spansFrom, hn]
    | cons c after => simp [spansFrom, hn]
  | cons c before ih =>
    have hLater := ih (front ++ [c]) (by simpa using h)
    rw [List.cons_append, spansFrom]
    split
    · exact List.cons_ne_nil _ _
    · simpa using hLater

/-- A pattern is found in a text exactly if one of its terms stands somewhere in it. -/
theorem occursIn_iff {p : WordPattern} {text : String} :
    p.occursIn text = true ↔ ∃ m, IsPlace p.terms text.toList m := by
  rw [occursIn, Bool.not_eq_true', List.isEmpty_eq_false_iff]
  constructor
  · intro h
    obtain ⟨m, hm⟩ := List.exists_mem_of_ne_nil _ h
    exact ⟨m, isPlace_of_mem_spansFrom [] hm⟩
  · rintro ⟨m, before, after, hText, -, term, hTerm, hStands, -⟩
    rw [spans, hText]
    exact spansFrom_ne_nil [] hTerm hStands

theorem isPlace_of_mem_spans {p : WordPattern} {text : List Char} (h : m ∈ p.spans text) :
    IsPlace p.terms text m := isPlace_of_mem_spansFrom [] h

/-- A match reads like the term, letter case aside. -/
theorem exists_stretch_of_mem_spans {term : String} {text : List Char} (h : m ∈ (word term).spans text) :
    ∃ before inside after, text = before ++ (inside ++ after) ∧ m = ⟨before.length, before.length + inside.length⟩ ∧
      inside.map letter = term.toList.map letter := by
  obtain ⟨before, after, hText, hStart, t, ht, hStands, hStop⟩ := isPlace_of_mem_spans h
  obtain rfl := List.mem_singleton.mp ht
  simp only [standsAt, Bool.and_eq_true] at hStands
  have hLength : (after.take term.toList.length).length = term.toList.length :=
    List.length_take_of_le (length_le_of_beginsWith hStands.1.2)
  have hPrefix := beginsWith_iff_map_letter.mp hStands.1.2
  refine ⟨before, after.take term.toList.length, after.drop term.toList.length, ?_, ?_, ?_⟩
  · rw [List.take_append_drop, hText]
  · rw [hLength, ← hStart, ← hStop]
  · rw [List.map_take, List.prefix_iff_eq_take.mp hPrefix, List.length_map]

end WordPattern

end QuoteSearch
