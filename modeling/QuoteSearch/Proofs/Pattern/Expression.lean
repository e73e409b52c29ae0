import QuoteSearch.Proofs.Pattern.Leftmost
import Mathlib.Data.List.Basic

/-! # Written patterns read as expressions

The written form of a pattern is an expression, and whoever searches for it has nothing else. A reader
takes such an expression apart: a bar, a bracket or a backslash has its own meaning unless a backslash
stands in front of it. A written pattern is read as the terms it was made of, each of them literally, in
their order and between two word boundaries.
-/

namespace QuoteSearch

open Text WordPattern

/-- The expressions that written patterns need. Letter case does not count in any of them. -/
inductive Expression where
  | empty
  | literal (c : Char)
  | boundary
  | sequence (first second : Expression)
  | choice (first second : Expression)

namespace Expression

/-- How long the matches are that begin where `rest` does, in the order in which they are tried. -/
def lengths : Expression → Option Char → List Char → List Nat
  | empty, _, _ => [0]
  | literal c, _, rest => if beginsWith [c] rest then [1] else []
  | boundary, before, rest => if isBoundary before rest.head? then [0] else []
  | sequence e f, before, rest => (e.lengths before rest).flatMap fun n =>
      (f.lengths ((rest.take n).getLast?.or before) (rest.drop n)).map (n + ·)
  | choice e f, before, rest => e.lengths before rest ++ f.lengths before rest

def words : Expression → List (List Char)
  | empty => [[]]
  | literal c => [[c]]
  | boundary => [[]]
  | sequence e f => e.words.flatMap fun front => f.words.map (front ++ ·)
  | choice e f => e.words ++ f.words

/-- The part of a group that is read: the alternatives in front of the last bar, and what stands behind it. -/
structure Level where
  earlier : Option Expression
  current : Expression

namespace Level

def start : Level := ⟨none, .empty⟩

def close (level : Level) : Expression :=
  match level.earlier with
  | none => level.current
  | some e => .choice e level.current

def add (level : Level) (e : Expression) : Level := { level with current := .sequence level.current e }

def bar (level : Level) : Level := ⟨some level.close, .empty⟩

end Level

/-- Characters that are more than themselves if no backslash stands in front of them. -/
def isOperator (c : Char) : Bool := "\\.+*?()|[\x7b^$".toList.contains c

/-- Reads the rest of an expression, in the given group and the groups around it. -/
def readFrom : List Level → Level → List Char → Option Expression
  | [], level, [] => some level.close
  | _ :: _, _, [] => none
  | outer, level, '\\' :: 'b' :: rest => readFrom outer (level.add .boundary) rest
  | outer, level, '\\' :: c :: rest =>
    if isSpecial c then readFrom outer (level.add (.literal c)) rest else none
  | outer, level, '(' :: '?' :: ':' :: rest => readFrom (level :: outer) .start rest
  | outer, level, '|' :: rest => readFrom outer level.bar rest
  | around :: outer, level, ')' :: rest => readFrom outer (around.add level.close) rest
  | outer, level, c :: rest =>
    if isOperator c then none else readFrom outer (level.add (.literal c)) rest

/-- Reads an expression for which letter case is switched off. -/
def read : List Char → Option Expression
  | '(' :: '?' :: 'i' :: ')' :: rest => readFrom [] .start rest
  | _ => none

/-- The expression that goes on with the characters of a term. -/
def spell (e : Expression) (term : List Char) : Expression := term.foldl (fun e c => .sequence e (.literal c)) e

theorem beginsWith_cons (c : Char) (term text : List Char) :
    beginsWith (c :: term) text = (beginsWith [c] text && beginsWith term (text.drop 1)) := by
  cases text with
  | nil => rfl
  | cons d text => simp only [beginsWith, Bool.and_true, List.drop_succ_cons, List.drop_zero]

theorem lengths_spell (e : Expression) (term : List Char) (before : Option Char) (rest : List Char) :
    (e.spell term).lengths before rest =
      (e.lengths before rest).flatMap fun n => if beginsWith term (rest.drop n) then [n + term.length] else [] := by
  induction term generalizing e with
  | nil => simp [spell, beginsWith]
  | cons c term ih =>
    rw [spell, List.foldl_cons, ← spell, ih, lengths, List.flatMap_assoc]
    refine List.flatMap_congr fun n _ => ?_
    rw [lengths, beginsWith_cons c term, List.drop_drop]
    cases beginsWith [c] (rest.drop n) with
    | false => rfl
    | true => simp [Nat.add_assoc, Nat.add_comm 1]

theorem words_spell (e : Expression) (term : List Char) : (e.spell term).words = e.words.map (· ++ term) := by
  induction term generalizing e with
  | nil => simp [spell]
  | cons c term ih =>
    have hLiteral : (sequence e (literal c)).words = e.words.map (· ++ [c]) := by
      simp only [words, List.map_singleton, ← List.map_eq_flatMap]
    rw [spell, List.foldl_cons, ← spell, ih, hLiteral, List.map_map]
    refine List.map_congr_left fun front _ => ?_
    rw [Function.comp_apply, List.append_assoc, List.singleton_append]

/-! ## The alternatives of a group -/

def Level.alternative (level : Level) (term : List Char) : Level := ⟨some level.close, empty.spell term⟩

/-- The group that holds some terms, all of them read. -/
def alternatives : List (List Char) → Level
  | [] => .start
  | term :: terms => terms.foldl Level.alternative ⟨none, empty.spell term⟩

theorem lengths_foldl_alternative (terms : List (List Char)) (level : Level) (before : Option Char) (rest : List Char) :
    (terms.foldl Level.alternative level).close.lengths before rest =
      level.close.lengths before rest ++ terms.flatMap fun t => if beginsWith t rest then [t.length] else [] := by
  induction terms generalizing level with
  | nil => simp
  | cons t terms ih =>
    rw [List.foldl_cons, ih, Level.close, Level.alternative, lengths, lengths_spell, List.append_assoc,
      List.flatMap_cons]
    simp [lengths]

theorem words_foldl_alternative (terms : List (List Char)) (level : Level) :
    (terms.foldl Level.alternative level).close.words = level.close.words ++ terms := by
  induction terms generalizing level with
  | nil => simp
  | cons t terms ih =>
    rw [List.foldl_cons, ih, Level.close, Level.alternative, words, words_spell]
    simp [words]

theorem lengths_alternatives {terms : List (List Char)} (hTerms : terms ≠ []) (before : Option Char)
    (rest : List Char) :
    (alternatives terms).close.lengths before rest =
      terms.flatMap fun t => if beginsWith t rest then [t.length] else [] := by
  cases terms with
  | nil => exact absurd rfl hTerms
  | cons t terms =>
    rw [alternatives, lengths_foldl_alternative, Level.close, lengths_spell, List.flatMap_cons]
    simp [lengths]

theorem words_alternatives {terms : List (List Char)} (hTerms : terms ≠ []) :
    (alternatives terms).close.words = terms := by
  cases terms with
  | nil => exact absurd rfl hTerms
  | cons t terms =>
    rw [alternatives, words_foldl_alternative, Level.close, words_spell]
    simp [words]

/-! ## Reading what is written -/

theorem readFrom_special {c : Char} (h : isSpecial c = true) (outer : List Level) (level : Level) (rest : List Char) :
    readFrom outer level ('\\' :: c :: rest) = readFrom outer (level.add (.literal c)) rest := by
  have hNotB : c ≠ 'b' := by
    rintro rfl
    cases h
  rw [readFrom]
  · rw [if_pos h]
  · exact hNotB

theorem isSpecial_of_isOperator {c : Char} (h : isOperator c = true) : isSpecial c = true := by
  have hAll : "\\.+*?()|[\x7b^$".toList.all isSpecial = true := by decide
  exact List.all_eq_true.mp hAll c (List.contains_iff_mem.mp h)

theorem readFrom_plain {c : Char} (h : isSpecial c = false) (outer : List Level) (level : Level) (rest : List Char) :
    readFrom outer level (c :: rest) = readFrom outer (level.add (.literal c)) rest := by
  have hNe : ∀ d, isSpecial d = true → c ≠ d := by
    rintro d hd rfl
    exact Bool.false_ne_true (h.symm.trans hd)
  have hOperator : ¬ isOperator c = true := fun hc => hNe c (isSpecial_of_isOperator hc) rfl
  rw [readFrom, if_neg hOperator]
  · exact fun _ hc _ => hNe '\\' rfl hc
  · exact fun _ _ hc _ => hNe '\\' rfl hc
  · exact fun _ hc _ => hNe '(' rfl hc
  · exact hNe '|' rfl
  · exact fun _ _ _ hc => hNe ')' rfl hc

theorem readFrom_literal (outer : List Level) (level : Level) (term rest : List Char) :
    readFrom outer level (WordPattern.literal term ++ rest) =
      readFrom outer { level with current := level.current.spell term } rest := by
  induction term generalizing level with
  | nil => rfl
  | cons c term ih =>
    rw [WordPattern.literal, List.flatMap_cons, ← WordPattern.literal]
    cases hSpecial : isSpecial c with
    | true =>
      exact (readFrom_special hSpecial _ _ _).trans (ih _)
    | false =>
      exact (readFrom_plain hSpecial _ _ _).trans (ih _)

theorem readFrom_bars (outer : List Level) (level : Level) (terms : List (List Char)) (rest : List Char) :
    readFrom outer level (terms.flatMap (fun t => '|' :: WordPattern.literal t) ++ rest) =
      readFrom outer (terms.foldl Level.alternative level) rest := by
  induction terms generalizing level with
  | nil => rfl
  | cons t terms ih =>
    rw [List.flatMap_cons, List.append_assoc, List.cons_append, readFrom, readFrom_literal, ih]
    rfl

theorem intercalate_cons (term : List Char) (terms : List (List Char)) :
    ['|'].intercalate (term :: terms) = term ++ terms.flatMap ('|' :: ·) := by
  induction terms generalizing term with
  | nil => rw [List.intercalate_singleton, List.flatMap_nil, List.append_nil]
  | cons t terms ih => rw [List.intercalate_cons_cons, ih, List.flatMap_cons, List.append_assoc, List.singleton_append,
      List.cons_append]

theorem readFrom_alternatives (around : Level) (outer : List Level) (terms : List (List Char)) (rest : List Char) :
    readFrom (around :: outer) .start (['|'].intercalate (terms.map WordPattern.literal) ++ ')' :: rest) =
      readFrom outer (around.add (alternatives terms).close) rest := by
  cases terms with
  | nil => rw [List.map_nil, List.intercalate_nil, List.nil_append, readFrom]; rfl
  | cons t terms =>
    rw [List.map_cons, intercalate_cons, List.flatMap_map, List.append_assoc, readFrom_literal, readFrom_bars, readFrom]
    rfl

def ofPattern : WordPattern → Expression
  | .word term => sequence ((sequence empty boundary).spell term.toList) boundary
  | .anyOf terms =>
    sequence (sequence (sequence empty boundary) (alternatives (terms.map String.toList)).close) boundary

theorem read_text (p : WordPattern) : read p.text.toList = some (ofPattern p) := by
  cases p with
  | word term =>
    have hFront : "(?i)\\b".toList = ['(', '?', 'i', ')', '\\', 'b'] := by decide
    have hBack : "\\b".toList = ['\\', 'b'] := by decide
    simp only [WordPattern.text, String.toList_append, String.toList_ofList, hFront, hBack, List.cons_append,
      List.nil_append]
    rw [read, readFrom, readFrom_literal, readFrom, readFrom]
    rfl
  | anyOf terms =>
    have hFront : "(?i)\\b(?:".toList = ['(', '?', 'i', ')', '\\', 'b', '(', '?', ':'] := by decide
    have hBar : "|".toList = ['|'] := by decide
    have hBack : ")\\b".toList = [')', '\\', 'b'] := by decide
    have hTerms : (terms.map fun t => String.ofList (WordPattern.literal t.toList)).map String.toList =
        (terms.map String.toList).map WordPattern.literal := by
      simp only [List.map_map, Function.comp_def, String.toList_ofList]
    simp only [WordPattern.text, String.toList_append, String.toList_intercalate, hTerms, hFront, hBar, hBack,
      List.cons_append, List.nil_append]
    rw [read, readFrom, readFrom, readFrom_alternatives, readFrom, readFrom]
    rfl

theorem words_ofPattern {p : WordPattern} (hTerms : p.terms ≠ []) : (ofPattern p).words = p.terms := by
  cases p with
  | word term => simp [ofPattern, words, words_spell, terms]
  | anyOf terms =>
    have hWords : (alternatives (terms.map String.toList)).close.words = terms.map String.toList :=
      words_alternatives hTerms
    simp [ofPattern, words, hWords, WordPattern.terms]

/-- A bar and brackets in a term are characters of the term. -/
example : (read (WordPattern.anyOf ["a|b", "(c)"]).text.toList).map words = some ["a|b".toList, "(c)".toList] := by
  decide +kernel

/-- Of the matches that end at a boundary nothing is lost. -/
theorem lengths_sequence_boundary (e : Expression) (before : Option Char) (rest : List Char) :
    (sequence e boundary).lengths before rest = (e.lengths before rest).filter fun n =>
      isBoundary ((rest.take n).getLast?.or before) (rest.drop n).head? := by
  rw [lengths]
  induction e.lengths before rest with
  | nil => rfl
  | cons n later ih =>
    rw [List.flatMap_cons, ih, List.filter_cons, lengths]
    split <;> rfl

theorem lengths_sequence_empty_boundary (before : Option Char) (rest : List Char) :
    (sequence empty boundary).lengths before rest = if isBoundary before rest.head? then [0] else [] := by
  rw [lengths_sequence_boundary, lengths, List.filter_cons, List.filter_nil, List.take_zero, List.drop_zero]
  rfl

theorem lengths_enclosed {e : Expression} {terms : List (List Char)} {before : Option Char} {rest : List Char}
    (h : e.lengths before rest = if isBoundary before rest.head? then
      terms.flatMap fun t => if beginsWith t rest then [t.length] else [] else []) :
    (sequence e boundary).lengths before rest =
      terms.flatMap fun t => if standsAt t before rest then [t.length] else [] := by
  rw [lengths_sequence_boundary, h]
  cases hBefore : isBoundary before rest.head? with
  | false => simp [standsAt, hBefore]
  | true =>
    rw [if_pos rfl, List.filter_flatMap]
    refine List.flatMap_congr fun t _ => ?_
    cases hTerm : beginsWith t rest with
    | false => simp [standsAt, hTerm]
    | true => rw [standsAt, hBefore, hTerm, if_pos rfl, List.filter_cons, List.filter_nil, Bool.and_self, Bool.true_and]

theorem lengths_ofPattern {p : WordPattern} (hTerms : p.terms ≠ []) (before : Option Char) (rest : List Char) :
    (ofPattern p).lengths before rest = p.terms.flatMap fun t => if standsAt t before rest then [t.length] else [] := by
  cases p with
  | word term =>
    apply lengths_enclosed
    rw [lengths_spell, lengths_sequence_empty_boundary, terms, List.flatMap_singleton]
    split
    · rw [List.flatMap_singleton, List.drop_zero, Nat.zero_add]
    · rfl
  | anyOf terms =>
    apply lengths_enclosed
    rw [lengths, lengths_sequence_empty_boundary]
    split
    · rw [WordPattern.terms] at hTerms ⊢
      simp only [List.flatMap_singleton, List.drop_zero, Nat.zero_add, List.map_id', lengths_alternatives hTerms]
    · rfl

theorem head?_lengths_ofPattern {p : WordPattern} (hTerms : p.terms ≠ []) (before : Option Char) (rest : List Char) :
    ((ofPattern p).lengths before rest).head? = lengthAt? p.terms before rest := by
  rw [lengths_ofPattern hTerms, List.head?_flatMap, lengthAt?]
  refine congrArg (p.terms.findSome? ·) (funext fun t => ?_)
  split <;> rfl

end Expression

end QuoteSearch
