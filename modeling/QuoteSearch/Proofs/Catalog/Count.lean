import QuoteSearch.Catalog.Select
import QuoteSearch.Proofs.Pattern.Count

/-! # Matches in a catalogue

The count of a list of words lies between the number of quotes that one of the words is found in and
the sum of the counts of the words. Quotes without a match are left out before the matches are
counted; that leaves the count as it is.
-/

namespace QuoteSearch.Catalog

open Text WordPattern

/-- The number of matches of a list of words, which is zero when all of them are blank. -/
def countWords (c : Catalog) (words : List String) : Nat := (anyOf? words).elim 0 c.countOccurrences

variable (c : Catalog) {words : List String}

theorem countOccurrences_eq_sum (p : WordPattern) :
    c.countOccurrences p = (c.quotes.map fun q => (p.spans q.content.toList).length).sum := by
  rw [countOccurrences, List.length_flatMap]
  induction c.quotes with
  | nil => rfl
  | cons q quotes ih =>
    rw [List.filter_cons, List.map_cons, List.sum_cons]
    split
    · rw [List.map_cons, List.sum_cons, ih]
    · rename_i hFound
      have hNone : (p.spans q.content.toList).length = 0 :=
        (occursIn_eq_false_iff p q.content).mp (Bool.eq_false_iff.mpr hFound)
      rw [ih, hNone, Nat.zero_add]

theorem countOccurrences_eq_zero_iff (p : WordPattern) :
    c.countOccurrences p = 0 ↔ ∀ q ∈ c.quotes, p.occursIn q.content = false := by
  simp only [countOccurrences_eq_sum, List.sum_eq_zero_iff_forall_eq_nat, List.forall_mem_map,
    occursIn_eq_false_iff, matchCount, spans]

/-- A quote that is found has at least one match. -/
theorem countP_occursIn_le (p : WordPattern) :
    c.quotes.countP (fun q => p.occursIn q.content) ≤ c.countOccurrences p := by
  rw [countOccurrences, List.length_flatMap, List.countP_eq_length_filter,
    ← List.length_map fun q => (p.spans q.content.toList).length]
  refine List.length_le_sum_of_one_le _ (List.forall_mem_map.mpr fun q hq => ?_)
  have hFound : p.occursIn q.content = true := (List.mem_filter.mp hq).2
  rw [occursIn, Bool.not_eq_true', List.isEmpty_eq_false_iff] at hFound
  exact List.length_pos_iff.mpr hFound

theorem countOccurrences_anyOf_le (hWords : ∀ w ∈ words, w ≠ "") :
    c.countOccurrences (.anyOf words) ≤ (words.map fun w => c.countOccurrences (.word w)).sum := by
  simp only [countOccurrences_eq_sum]
  induction c.quotes with
  | nil => apply Nat.zero_le
  | cons q quotes ih =>
    simp only [List.map_cons, List.sum_cons, List.sum_map_add]
    exact Nat.add_le_add (length_spans_anyOf_le hWords q.content.toList) ih

theorem countWords_eq : c.countWords words =
    if members words = [] then 0 else c.countOccurrences (.anyOf (members words)) := by
  rw [countWords, anyOf?_eq]
  split <;> rfl

theorem countWords_eq_zero_iff : c.countWords words = 0 ↔
    ∀ q ∈ c.quotes, ∀ w ∈ members words, (word w).occursIn q.content = false := by
  rw [countWords_eq]
  split
  · rename_i hNone
    simp [hNone]
  · simp only [countOccurrences_eq_zero_iff, occursIn_anyOf_eq_false_iff]

theorem countP_le_countWords :
    c.quotes.countP (fun q => (members words).any fun w => (word w).occursIn q.content) ≤
      c.countWords words := by
  rw [countWords_eq]
  split
  · rename_i hNone
    simp [hNone]
  · refine Nat.le_trans (List.countP_mono_left fun q _ hAny => ?_) (c.countP_occursIn_le _)
    obtain ⟨w, hw, hFound⟩ := List.any_eq_true.mp hAny
    rw [← Bool.not_eq_false, occursIn_anyOf_eq_false_iff]
    exact fun hNone => Bool.false_ne_true ((hNone w hw).symm.trans hFound)

theorem countWords_le_sum :
    c.countWords words ≤ ((members words).map fun w => c.countOccurrences (.word w)).sum := by
  rw [countWords_eq]
  split
  · apply Nat.zero_le
  · exact c.countOccurrences_anyOf_le fun w => ne_empty_of_mem_members

theorem countWords_of_singleton {w : String} (h : members words = [w]) :
    c.countWords words = c.countOccurrences (.word w) := by
  rw [countWords_eq, h, if_neg (List.cons_ne_nil w [])]
  rfl

/-- Words may be blank and may repeat a word that is there. -/
theorem countWords_append_of_blank {w : String} (h : trim w = "") :
    c.countWords (words ++ [w]) = c.countWords words := by
  rw [countWords_eq, countWords_eq, members_append_of_blank h]

theorem countWords_append_of_toLower {member w : String} (hMember : member ∈ members words)
    (h : (trim w).toLower = member.toLower) : c.countWords (words ++ [w]) = c.countWords words := by
  have hNonblank : trim w ≠ "" := by
    rw [ne_eq, ← toLower_eq_empty_iff, h, toLower_eq_empty_iff]
    exact ne_empty_of_mem_members hMember
  have hSome : members words ≠ [] := List.ne_nil_of_mem hMember
  have hMore : members words ++ [trim w] ≠ [] := List.append_ne_nil_of_left_ne_nil hSome _
  rw [countWords_eq, countWords_eq, members_append_of_nonblank hNonblank, if_neg hMore, if_neg hSome,
    countOccurrences_eq_sum, countOccurrences_eq_sum]
  simp only [spans_anyOf_append_of_toLower hMember h]

end QuoteSearch.Catalog
