import QuoteSearch.Proofs.Text.Trim
import QuoteSearch.Text.Folding

/-! # ASCII letter case

A character and its small ASCII letter spell the same letter and are both blank or both not, so
looking for a term and trimming do not see the difference. Most small ASCII letters are spelled by
themselves and their capitals only; only `k` and `s` have a third spelling.
-/

namespace QuoteSearch.Text

/-- Only the capitals from `A` to `Z` are changed. -/
theorem toLower_eq_self_or (c : Char) : c.toLower = c ∨ ∃ k < 26, c = Char.ofNat (65 + k) := by
  by_cases hUpper : c.val ≥ 'A'.val ∧ c.val ≤ 'Z'.val
  · right
    have hLower : 65 ≤ c.toNat := UInt32.le_iff_toNat_le.mp hUpper.1
    have hGreater : c.toNat ≤ 90 := UInt32.le_iff_toNat_le.mp hUpper.2
    refine ⟨c.toNat - 65, by omega, ?_⟩
    rw [Nat.add_sub_cancel' hLower, Char.ofNat_toNat]
  · left
    exact dif_neg hUpper

/-- What holds of each capital and its small letter holds of every character. -/
theorem apply_toLower {α : Type} {f : Char → α}
    (h : ∀ k < 26, f (Char.ofNat (65 + k)).toLower = f (Char.ofNat (65 + k))) (c : Char) :
    f c.toLower = f c := by
  rcases toLower_eq_self_or c with hSame | ⟨k, hk, rfl⟩
  · rw [hSame]
  · exact h k hk

@[simp]
theorem letter_toLower (c : Char) : letter c.toLower = letter c :=
  apply_toLower (by decide) c

theorem sameLetter_toLower_left (a b : Char) : sameLetter a.toLower b = sameLetter a b := by
  rw [sameLetter, letter_toLower, sameLetter]

theorem sameLetter_toLower_right (a b : Char) : sameLetter a b.toLower = sameLetter a b := by
  rw [sameLetter, letter_toLower, sameLetter]

@[simp]
theorem isBlank_toLower (c : Char) : isBlank c.toLower = isBlank c :=
  apply_toLower (by decide) c

/-- No ASCII letter, capital or small. -/
def IsCaseless (d : Char) : Prop :=
  ∀ k < 26, Char.ofNat (65 + k) ≠ d ∧ (Char.ofNat (65 + k)).toLower ≠ d

instance (d : Char) : Decidable (IsCaseless d) :=
  inferInstanceAs (Decidable (∀ k < 26, Char.ofNat (65 + k) ≠ d ∧ (Char.ofNat (65 + k)).toLower ≠ d))

theorem toLower_eq_iff {c d : Char} (h : IsCaseless d) : c.toLower = d ↔ c = d := by
  rcases toLower_eq_self_or c with hSame | ⟨k, hk, rfl⟩
  · rw [hSame]
  · exact ⟨fun hLower => absurd hLower (h k hk).2, fun hCapital => absurd hCapital (h k hk).1⟩

/-- A text with small ASCII letters. -/
def lowered (text : List Char) : List Char := text.map Char.toLower

theorem lowered_cons (c : Char) (text : List Char) : lowered (c :: text) = c.toLower :: lowered text :=
  rfl

theorem toList_toLower (s : String) : s.toLower.toList = lowered s.toList := String.toList_map

theorem toLower_eq_empty_iff {s : String} : s.toLower = "" ↔ s = "" := by
  rw [← String.toList_eq_nil_iff, toList_toLower, lowered, List.map_eq_nil_iff, String.toList_eq_nil_iff]

theorem ofList_lowered (text : List Char) : String.ofList (lowered text) = (String.ofList text).toLower := by
  rw [← String.toList_inj, toList_toLower, String.toList_ofList, String.toList_ofList]

theorem length_lowered (text : List Char) : (lowered text).length = text.length := List.length_map _

theorem isEmpty_lowered (text : List Char) : (lowered text).isEmpty = text.isEmpty := List.isEmpty_map

theorem lowered_append (a b : List Char) : lowered (a ++ b) = lowered a ++ lowered b := List.map_append

theorem mem_lowered_iff {d : Char} (h : IsCaseless d) {text : List Char} : d ∈ lowered text ↔ d ∈ text := by
  rw [lowered, List.mem_map]
  simp only [toLower_eq_iff h, exists_eq_right]

theorem dropWhile_lowered {p : Char → Bool} (hp : ∀ c, p c.toLower = p c) (text : List Char) :
    (lowered text).dropWhile p = lowered (text.dropWhile p) := by
  have hEq : p ∘ Char.toLower = p := funext hp
  rw [lowered, List.dropWhile_map, hEq, lowered]

theorem takeWhile_lowered {p : Char → Bool} (hp : ∀ c, p c.toLower = p c) (text : List Char) :
    (lowered text).takeWhile p = lowered (text.takeWhile p) := by
  have hEq : p ∘ Char.toLower = p := funext hp
  rw [lowered, List.takeWhile_map, hEq, lowered]

theorem all_lowered {p : Char → Bool} (hp : ∀ c, p c.toLower = p c) (text : List Char) :
    (lowered text).all p = text.all p := by
  have hEq : p ∘ Char.toLower = p := funext hp
  rw [lowered, List.all_map, hEq]

theorem any_lowered {p : Char → Bool} (hp : ∀ c, p c.toLower = p c) (text : List Char) :
    (lowered text).any p = text.any p := by
  have hEq : p ∘ Char.toLower = p := funext hp
  rw [lowered, List.any_map, hEq]

theorem trimBlanks_lowered (text : List Char) : trimBlanks (lowered text) = lowered (trimBlanks text) := by
  rw [trimBlanks, dropWhile_lowered isBlank_toLower, lowered, ← List.map_reverse, ← lowered,
    dropWhile_lowered isBlank_toLower, lowered, ← List.map_reverse]
  rfl

theorem trimmed_of_lowered {text : List Char} (h : trimBlanks (lowered text) = lowered text) :
    trimBlanks text = text := by
  refine (List.rdropWhile_prefix isBlank _).sublist.trans (List.dropWhile_sublist isBlank) |>.eq_of_length ?_
  rw [← trimBlanks_eq_rdropWhile, ← length_lowered, ← trimBlanks_lowered, h, length_lowered]

theorem trim_toLower (s : String) : trim s.toLower = (trim s).toLower := by
  rw [trim, toList_toLower, trimBlanks_lowered, ofList_lowered, trim]

theorem beginsWith_lowered_left (term text : List Char) :
    beginsWith (lowered term) text = beginsWith term text := by
  induction term generalizing text with
  | nil => rfl
  | cons a term ih =>
    cases text with
    | nil => rfl
    | cons b text =>
      rw [lowered_cons, beginsWith, beginsWith, sameLetter_toLower_left, ih]

theorem beginsWith_lowered_right (term text : List Char) :
    beginsWith term (lowered text) = beginsWith term text := by
  induction term generalizing text with
  | nil => cases text <;> rfl
  | cons a term ih =>
    cases text with
    | nil => rfl
    | cons b text =>
      rw [lowered_cons, beginsWith, beginsWith, sameLetter_toLower_right, ih]

theorem shiftIn_cases (rows : List FoldRow) (n : Nat) :
    shiftIn rows n = 0 ∨ ∃ row ∈ rows, row.contains n = true ∧ shiftIn rows n = row.shift := by
  fun_induction shiftIn rows n with
  | case1 => exact .inl rfl
  | case2 => exact .inl rfl
  | case3 row rest n _ hContains => exact .inr ⟨row, List.mem_cons_self, hContains, rfl⟩
  | case4 row rest n _ _ ih =>
    rcases ih with hZero | ⟨found, hFound, hContains, hShift⟩
    · exact .inl hZero
    · exact .inr ⟨found, List.mem_cons_of_mem row hFound, hContains, hShift⟩

/-- The table of spellings misses no character that is folded to the same point. -/
theorem mem_spellings {m n : Nat} (h : foldPoint m = foldPoint n) : m ∈ spellings n := by
  have hTable : ∀ row ∈ foldRows, 0 ≤ (row.first : Int) + row.shift := by decide +kernel
  rw [spellings, ← h, List.mem_cons]
  rcases shiftIn_cases foldRows m with hZero | ⟨row, hRow, hContains, hShift⟩
  · left
    rw [foldPoint, hZero, Int.add_zero, Int.toNat_natCast]
  · right
    have hFirst : row.first ≤ m := by
      simp only [FoldRow.contains, Bool.and_eq_true, decide_eq_true_eq] at hContains
      exact hContains.1.1
    have hSource : ((foldPoint m : Int) - row.shift).toNat = m := by
      have hRow := hTable row hRow
      rw [foldPoint, hShift]
      omega
    refine List.mem_filterMap.mpr ⟨row, hRow, ?_⟩
    simp only [hSource, hContains, if_true]

/-- The character is spelled by itself and, if it is a small letter, its capital only. -/
def IsPlain (t : Char) : Prop := ∀ c, sameLetter t c = true → c.toLower = t

theorem isPlain_of_spellings {t : Char} (h : ∀ m ∈ spellings t.toNat, (Char.ofNat m).toLower = t) :
    IsPlain t := by
  intro c hc
  have hMem : c.toNat ∈ spellings t.toNat := mem_spellings (sameLetter_iff.mp hc).symm
  rw [← h _ hMem, Char.ofNat_toNat]

/-- A term of such characters is found where its small letters stand in the lowered text. -/
theorem beginsWith_iff_prefix {term : List Char} (hTerm : ∀ t ∈ term, IsPlain t) {text : List Char} :
    beginsWith term text = true ↔ term <+: lowered text := by
  induction term generalizing text with
  | nil => simp [beginsWith]
  | cons t term ih =>
    obtain ⟨hFirst, hRest⟩ := List.forall_mem_cons.mp hTerm
    cases text with
    | nil => simp [beginsWith, lowered]
    | cons c text =>
      rw [beginsWith, Bool.and_eq_true, ih hRest, lowered_cons, List.cons_prefix_cons]
      refine and_congr_left fun _ => ⟨fun h => (hFirst c h).symm, ?_⟩
      rintro rfl
      rw [sameLetter_toLower_left]
      exact sameLetter_self c

end QuoteSearch.Text
