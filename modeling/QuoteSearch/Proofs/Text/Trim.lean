import QuoteSearch.Text.Blank
import Mathlib.Data.List.DropRight

/-! # Trimmed texts

Trimming a trimmed text does nothing. A text is trimmed if neither its first nor its last character
is blank, so what stands between two trimmed texts does not matter.
-/

namespace QuoteSearch.Text

theorem trimBlanks_eq_rdropWhile (s : List Char) :
    trimBlanks s = (s.dropWhile isBlank).rdropWhile isBlank := rfl

theorem dropWhile_trimBlanks (s : List Char) : (trimBlanks s).dropWhile isBlank = trimBlanks s := by
  rw [trimBlanks_eq_rdropWhile, List.dropWhile_eq_self_iff]
  intro hLength
  obtain ⟨rest, hRest⟩ := List.rdropWhile_prefix isBlank (s.dropWhile isBlank)
  have hLong : 0 < (s.dropWhile isBlank).length :=
    hLength.trans_le (List.rdropWhile_prefix isBlank _).length_le
  have hHead : ((s.dropWhile isBlank).rdropWhile isBlank)[0] = (s.dropWhile isBlank)[0] :=
    (List.rdropWhile_prefix isBlank _).getElem hLength
  rw [hHead]
  exact List.dropWhile_eq_self_iff.mp (List.dropWhile_idempotent isBlank s) hLong

@[simp]
theorem trimBlanks_trimBlanks (s : List Char) : trimBlanks (trimBlanks s) = trimBlanks s := by
  rw [trimBlanks_eq_rdropWhile (trimBlanks s), dropWhile_trimBlanks, trimBlanks_eq_rdropWhile s,
    List.rdropWhile_idempotent]

theorem trimBlanks_eq_self_iff {s : List Char} :
    trimBlanks s = s ↔ (∀ c ∈ s.head?, isBlank c = false) ∧ ∀ c ∈ s.getLast?, isBlank c = false := by
  constructor
  · intro h
    have hFront : s.dropWhile isBlank = s := h ▸ dropWhile_trimBlanks s
    rw [trimBlanks_eq_rdropWhile, hFront] at h
    constructor
    · intro c hc
      cases s with
      | nil => cases hc
      | cons a rest =>
        cases hc
        simpa using List.dropWhile_eq_self_iff.mp hFront (Nat.succ_pos _)
    · intro c hc
      obtain ⟨hNonempty, rfl⟩ := List.mem_getLast?_eq_getLast hc
      simpa using List.rdropWhile_eq_self_iff.mp h hNonempty
  · rintro ⟨hFirst, hLast⟩
    have hFront : s.dropWhile isBlank = s := by
      refine List.dropWhile_eq_self_iff.mpr fun hLength => ?_
      rw [Bool.not_eq_true]
      exact hFirst _ (List.head?_eq_getElem? ▸ List.getElem?_eq_getElem hLength)
    rw [trimBlanks_eq_rdropWhile, hFront, List.rdropWhile_eq_self_iff]
    intro hNonempty
    rw [Bool.not_eq_true]
    exact hLast _ (List.getLast?_eq_getLast_of_ne_nil hNonempty)

theorem trimBlanks_of_not_blank {s : List Char} (h : ∀ c ∈ s, isBlank c = false) : trimBlanks s = s :=
  trimBlanks_eq_self_iff.mpr
    ⟨fun c hc => h c (List.mem_of_mem_head? hc), fun c hc => h c (List.mem_of_mem_getLast? hc)⟩

theorem trimBlanks_append {a b : List Char} (ha : trimBlanks a = a) (haNonempty : a ≠ [])
    (hb : trimBlanks b = b) (hbNonempty : b ≠ []) (between : List Char) :
    trimBlanks (a ++ (between ++ b)) = a ++ (between ++ b) := by
  rw [trimBlanks_eq_self_iff] at ha hb ⊢
  rw [List.head?_append_of_ne_nil _ haNonempty, ← List.append_assoc, List.getLast?_append_of_ne_nil _ hbNonempty]
  exact ⟨ha.1, hb.2⟩

theorem trimBlanks_intercalate (sep : List Char) {texts : List (List Char)} (hNonempty : texts ≠ [])
    (hTexts : ∀ t ∈ texts, trimBlanks t = t ∧ t ≠ []) :
    trimBlanks (sep.intercalate texts) = sep.intercalate texts ∧ sep.intercalate texts ≠ [] := by
  induction texts with
  | nil => exact absurd rfl hNonempty
  | cons first rest ih =>
    obtain ⟨⟨hTrimmed, hFirst⟩, hRest⟩ := List.forall_mem_cons.mp hTexts
    cases rest with
    | nil =>
      rw [List.intercalate_singleton]
      exact ⟨hTrimmed, hFirst⟩
    | cons second rest =>
      obtain ⟨hJoined, hJoinedNonempty⟩ := ih (List.cons_ne_nil _ _) hRest
      rw [List.intercalate_cons_cons, List.append_assoc]
      exact ⟨trimBlanks_append hTrimmed hFirst hJoined hJoinedNonempty sep, by simp [hFirst]⟩

theorem trimBlanks_blank_cons {c : Char} (h : isBlank c = true) (s : List Char) :
    trimBlanks (c :: s) = trimBlanks s := by
  rw [trimBlanks, List.dropWhile_cons_of_pos h, trimBlanks]

theorem trimBlanks_append_blank {c : Char} (h : isBlank c = true) (s : List Char) :
    trimBlanks (s ++ [c]) = trimBlanks s := by
  rw [trimBlanks_eq_rdropWhile, trimBlanks_eq_rdropWhile, List.dropWhile_append]
  split
  · rename_i hBlank
    rw [List.dropWhile_cons_of_pos h, List.isEmpty_iff.mp hBlank]
    rfl
  · exact List.rdropWhile_concat_pos isBlank _ c h

theorem trimBlanks_isInfix (s : List Char) : trimBlanks s <:+: s :=
  (List.rdropWhile_prefix isBlank _).isInfix.trans (List.dropWhile_suffix isBlank).isInfix

/-- Only blanks are lost at the ends. -/
theorem exists_blanks_append (s : List Char) :
    ∃ before after, (∀ c ∈ before, isBlank c = true) ∧ (∀ c ∈ after, isBlank c = true) ∧
      s = before ++ (trimBlanks s ++ after) := by
  refine ⟨s.takeWhile isBlank, (s.dropWhile isBlank).rtakeWhile isBlank, fun c hc => List.mem_takeWhile_imp hc,
    fun c hc => List.mem_rtakeWhile_imp hc, ?_⟩
  rw [trimBlanks_eq_rdropWhile, List.rdropWhile_append_rtakeWhile, List.takeWhile_append_dropWhile]

theorem trimBlanks_blanks_append {before after s : List Char} (hBefore : ∀ c ∈ before, isBlank c = true)
    (hAfter : ∀ c ∈ after, isBlank c = true) : trimBlanks (before ++ (s ++ after)) = trimBlanks s := by
  induction before with
  | nil =>
    induction after using List.reverseRecOn with
    | nil => rw [List.append_nil, List.nil_append]
    | append_singleton after c ih =>
      rw [List.nil_append, ← List.append_assoc, trimBlanks_append_blank (hAfter c (by simp))]
      exact ih fun d hd => hAfter d (List.mem_append_left _ hd)
  | cons c before ih =>
    rw [List.cons_append, trimBlanks_blank_cons (hBefore c List.mem_cons_self)]
    exact ih fun d hd => hBefore d (List.mem_cons_of_mem _ hd)

theorem ne_nil_of_trimBlanks_ne_nil {s : List Char} (h : trimBlanks s ≠ []) : s ≠ [] := by
  rintro rfl
  exact h rfl

theorem isEmpty_trim_eq_false {s : String} (h : trimBlanks s.toList ≠ []) : (trim s).isEmpty = false := by
  rw [← Bool.not_eq_true, String.isEmpty_iff, ← String.toList_inj, toList_trim]
  exact h

theorem trimBlanks_ne_nil {s : String} (h : trim s ≠ "") : trimBlanks s.toList ≠ [] := by
  rwa [ne_eq, ← String.toList_inj, toList_trim] at h

end QuoteSearch.Text
