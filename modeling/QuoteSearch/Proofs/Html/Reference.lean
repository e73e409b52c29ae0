import QuoteSearch.Html
import Mathlib.Data.List.TakeWhile

/-! # Character references

The grammar of character references. Behind an ampersand the scanner finds a reference exactly
when one of the grammar stands there, and it finds its whole extent.
-/

namespace QuoteSearch.Html

/-- Members of a class, not too few and not too many, and the semicolon that ends them. -/
def IsRun (isMember : Char → Bool) (least most : Nat) (text : List Char) : Prop :=
  ∃ run, text = run ++ [';'] ∧ (∀ c ∈ run, isMember c = true) ∧ least ≤ run.length ∧ run.length ≤ most

/-- References by name, by a decimal number and by a hexadecimal number. -/
inductive IsReference : List Char → Prop where
  | name {c : Char} {rest : List Char} (hc : isLetter c = true) (h : IsRun isNameChar 1 31 rest) :
      IsReference ('&' :: c :: rest)
  | decimal {rest : List Char} (h : IsRun Text.isDigit 1 7 rest) : IsReference ('&' :: '#' :: rest)
  | hexadecimal {x : Char} {rest : List Char} (hx : x = 'x' ∨ x = 'X')
      (h : IsRun isHexDigit 1 6 rest) : IsReference ('&' :: '#' :: x :: rest)

theorem isRun_of_all {isMember : Char → Bool} {least most : Nat} (run : List Char)
    (hMembers : run.all isMember = true) (hLeast : least ≤ run.length) (hMost : run.length ≤ most) :
    IsRun isMember least most (run ++ [';']) :=
  ⟨run, rfl, List.all_eq_true.mp hMembers, hLeast, hMost⟩

theorem runLength?_eq_some_iff {isMember : Char → Bool} (hSemicolon : isMember ';' = false)
    {least most n : Nat} {text : List Char} :
    runLength? isMember least most text = some n ↔
      ∃ body tail, text = body ++ tail ∧ body.length = n ∧ IsRun isMember least most body := by
  simp only [runLength?, Option.ite_none_right_eq_some, Bool.and_eq_true, decide_eq_true_eq,
    beq_iff_eq, Option.some.injEq]
  constructor
  · rintro ⟨⟨⟨hLeast, hMost⟩, hHead⟩, rfl⟩
    obtain ⟨rest, hRest⟩ := List.takeWhile_prefix (l := text) isMember
    have hDrop : text.drop (text.takeWhile isMember).length = rest :=
      calc
        text.drop (text.takeWhile isMember).length =
            (text.takeWhile isMember ++ rest).drop (text.takeWhile isMember).length := by rw [hRest]
        _ = rest := List.drop_left
    obtain ⟨tail, hTail⟩ := List.head?_eq_some_iff.mp (hDrop ▸ hHead)
    refine ⟨text.takeWhile isMember ++ [';'], tail, ?_, by simp, text.takeWhile isMember, rfl,
      fun c hc => List.mem_takeWhile_imp hc, hLeast, hMost⟩
    rw [List.append_assoc, List.singleton_append, ← hTail, hRest]
  · rintro ⟨_, tail, rfl, rfl, run, rfl, hRun, hLeast, hMost⟩
    rw [List.append_assoc, List.singleton_append]
    have hTake : (run ++ ';' :: tail).takeWhile isMember = run := by
      rw [List.takeWhile_append_of_pos hRun]
      simp [hSemicolon]
    simp [hTake, hLeast, hMost]

theorem isNameChar_semicolon : isNameChar ';' = false := by decide

theorem isDigit_semicolon : Text.isDigit ';' = false := by decide

theorem isHexDigit_semicolon : isHexDigit ';' = false := by decide

theorem referenceLength?_hexadecimal {x : Char} (hx : x = 'x' ∨ x = 'X') (rest : List Char) :
    referenceLength? ('#' :: x :: rest) = (runLength? isHexDigit 1 6 rest).map (· + 2) := by
  rcases hx with rfl | rfl <;> rfl

theorem referenceLength?_decimal {rest : List Char} (h : ∀ tail, rest ≠ 'x' :: tail)
    (h' : ∀ tail, rest ≠ 'X' :: tail) :
    referenceLength? ('#' :: rest) = (runLength? Text.isDigit 1 7 rest).map (· + 1) :=
  referenceLength?.eq_3 rest h h'

theorem referenceLength?_name {c : Char} (hc : c ≠ '#') (rest : List Char) :
    referenceLength? (c :: rest) =
      if isLetter c then (runLength? isNameChar 1 31 rest).map (· + 1) else none := by
  rw [referenceLength?.eq_def]
  split <;> simp_all

theorem reference_of_referenceLength? {rest : List Char} {n : Nat}
    (h : referenceLength? rest = some n) :
    ∃ body tail, rest = body ++ tail ∧ body.length = n ∧ IsReference ('&' :: body) := by
  revert h
  fun_cases referenceLength? rest
  case case1 rest | case2 rest =>
    intro h
    obtain ⟨k, hk, rfl⟩ := Option.map_eq_some_iff.mp h
    obtain ⟨body, tail, rfl, rfl, hBody⟩ := (runLength?_eq_some_iff isHexDigit_semicolon).mp hk
    exact ⟨'#' :: _ :: body, tail, rfl, rfl, .hexadecimal (by simp) hBody⟩
  case case3 rest _ _ =>
    intro h
    obtain ⟨k, hk, rfl⟩ := Option.map_eq_some_iff.mp h
    obtain ⟨body, tail, rfl, rfl, hBody⟩ := (runLength?_eq_some_iff isDigit_semicolon).mp hk
    exact ⟨'#' :: body, tail, rfl, rfl, .decimal hBody⟩
  case case4 c rest _ _ _ hc =>
    intro h
    obtain ⟨k, hk, rfl⟩ := Option.map_eq_some_iff.mp h
    obtain ⟨body, tail, rfl, rfl, hBody⟩ := (runLength?_eq_some_iff isNameChar_semicolon).mp hk
    exact ⟨c :: body, tail, rfl, rfl, .name hc hBody⟩
  case case5 | case6 => simp

theorem IsRun.ne_cons {isMember : Char → Bool} {least most : Nat} {body tail : List Char}
    (h : IsRun isMember (least + 1) most body) {x : Char} (hx : isMember x = false) (rest : List Char) :
    body ++ tail ≠ x :: rest := by
  obtain ⟨run, rfl, hRun, hLeast, _⟩ := h
  cases run with
  | nil => simp at hLeast
  | cons c run =>
    rintro hEq
    simp only [List.cons_append, List.cons.injEq] at hEq
    simp [hEq.1 ▸ hRun c List.mem_cons_self] at hx

theorem referenceLength?_of_reference {body : List Char} (h : IsReference ('&' :: body))
    (tail : List Char) : referenceLength? (body ++ tail) = some body.length := by
  cases h with
  | @name c rest hc h =>
    have hHash : c ≠ '#' := by
      rintro rfl
      exact absurd hc (by decide)
    have hRun := (runLength?_eq_some_iff isNameChar_semicolon).mpr ⟨rest, tail, rfl, rfl, h⟩
    simp [referenceLength?_name hHash, hc, hRun]
  | @decimal rest h =>
    have hRun := (runLength?_eq_some_iff isDigit_semicolon).mpr ⟨rest, tail, rfl, rfl, h⟩
    rw [List.cons_append, referenceLength?_decimal (h.ne_cons (by decide)) (h.ne_cons (by decide)), hRun]
    rfl
  | @hexadecimal x rest hx h =>
    have hRun := (runLength?_eq_some_iff isHexDigit_semicolon).mpr ⟨rest, tail, rfl, rfl, h⟩
    rw [List.cons_append, List.cons_append, referenceLength?_hexadecimal hx, hRun]
    rfl

theorem referenceLength?_eq_some_iff {rest : List Char} {n : Nat} :
    referenceLength? rest = some n ↔
      ∃ body tail, rest = body ++ tail ∧ body.length = n ∧ IsReference ('&' :: body) := by
  constructor
  · exact reference_of_referenceLength?
  · rintro ⟨body, tail, rfl, rfl, h⟩
    exact referenceLength?_of_reference h tail

end QuoteSearch.Html
