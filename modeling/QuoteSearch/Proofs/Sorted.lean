import Mathlib.Data.List.Destutter
import Mathlib.Data.List.Sort

/-! # Lists sorted by a comparison

A list that is strictly sorted is determined by its members, and a sorted list without its
repetitions is strictly sorted.
-/

namespace QuoteSearch

open Std

variable {α β : Type*} {cmp : α → α → Ordering}

theorem transCmp_comap [TransCmp cmp] (f : β → α) : TransCmp fun a b => cmp (f a) (f b) where
  eq_swap := OrientedCmp.eq_swap
  isLE_trans := TransCmp.isLE_trans

theorem pairwise_isLE_mergeSort [TransCmp cmp] (l : List α) :
    (l.mergeSort fun a b => (cmp a b).isLE).Pairwise fun a b => (cmp a b).isLE = true := by
  apply List.pairwise_mergeSort
  · intro a b c hab hbc
    exact TransCmp.isLE_trans hab hbc
  · intro a b
    have hSwap : cmp b a = (cmp a b).swap := OrientedCmp.eq_swap
    rw [hSwap]
    cases cmp a b <;> rfl

theorem pairwise_lt_of_isLE {l : List α} (h : l.Pairwise fun a b => (cmp a b).isLE = true)
    (hDistinct : l.Pairwise fun a b => cmp a b ≠ .eq) : l.Pairwise fun a b => cmp a b = .lt := by
  refine (h.and hDistinct).imp ?_
  rintro a b ⟨hOrder, hNe⟩
  cases hCmp : cmp a b
  · rfl
  · exact absurd hCmp hNe
  · simp [hCmp] at hOrder

/-- Sorting makes a strict order of a list whose entries have different keys, if entries that the
comparison does not tell apart have the same key. -/
theorem mergeSort_pairwise_lt [TransCmp cmp] {γ : Type*} {key : α → γ}
    (hKey : ∀ a b, cmp a b = .eq → key a = key b) {l : List α} (h : (l.map key).Nodup) :
    (l.mergeSort fun a b => (cmp a b).isLE).Pairwise fun a b => cmp a b = .lt := by
  apply pairwise_lt_of_isLE (pairwise_isLE_mergeSort l)
  have hSorted : ((l.mergeSort fun a b => (cmp a b).isLE).map key).Nodup :=
    ((List.mergeSort_perm l _).map key).nodup_iff.mpr h
  apply (List.pairwise_map.mp hSorted).imp
  intro a b hNe hEq
  exact hNe (hKey a b hEq)

theorem nodup_of_pairwise_lt [ReflCmp cmp] {l : List α} (h : l.Pairwise fun a b => cmp a b = .lt) :
    l.Nodup := by
  refine h.imp ?_
  rintro a b hLess rfl
  simp [ReflCmp.compare_self] at hLess

theorem eq_of_pairwise_lt [TransCmp cmp] {l l' : List α} (h : l.Pairwise fun a b => cmp a b = .lt)
    (h' : l'.Pairwise fun a b => cmp a b = .lt) (hMem : ∀ a, a ∈ l ↔ a ∈ l') : l = l' := by
  have hPerm : l.Perm l' :=
    (List.perm_ext_iff_of_nodup (nodup_of_pairwise_lt h) (nodup_of_pairwise_lt h')).mpr hMem
  refine hPerm.eq_of_pairwise ?_ h h'
  intro a b _ _ hab hba
  have hSwap : cmp a b = (cmp b a).swap := OrientedCmp.eq_swap
  rw [hSwap, hba] at hab
  cases hab

theorem mem_destutter_ne [DecidableEq α] {l : List α} {a : α} :
    a ∈ l.destutter (· ≠ ·) ↔ a ∈ l := by
  have hRun : ∀ (l : List α) (b : α), a ∈ l.destutter' (· ≠ ·) b ↔ a = b ∨ a ∈ l := by
    intro l
    induction l with
    | nil => simp
    | cons c l ih =>
      intro b
      by_cases hbc : b = c
      · simp [hbc, ih]
      · simp [hbc, ih]
  cases l with
  | nil => rfl
  | cons b l => rw [List.destutter_cons', hRun, List.mem_cons]

/-- In a sorted list neighbours that differ suffice, if values that the comparison does not tell
apart are equal. -/
theorem pairwise_lt_of_isChain_ne [TransCmp cmp] {l : List α}
    (h : l.Pairwise fun a b => (cmp a b).isLE = true) (hChain : l.IsChain (· ≠ ·))
    (hEq : ∀ a ∈ l, ∀ b ∈ l, cmp a b = .eq → a = b) : l.Pairwise fun a b => cmp a b = .lt := by
  induction l with
  | nil => exact .nil
  | cons a l ih =>
    obtain ⟨hFirst, hRest⟩ := List.pairwise_cons.mp h
    have ih := ih hRest hChain.tail fun b hb c hc =>
      hEq b (List.mem_cons_of_mem _ hb) c (List.mem_cons_of_mem _ hc)
    refine List.pairwise_cons.mpr ⟨?_, ih⟩
    cases l with
    | nil => simp
    | cons c l =>
      have hac : cmp a c = .lt := by
        cases hCmp : cmp a c
        · rfl
        · exact absurd (hEq a (by simp) c (by simp) hCmp) (List.isChain_cons_cons.mp hChain).1
        · simpa [hCmp] using hFirst c List.mem_cons_self
      intro b hb
      rcases List.mem_cons.mp hb with rfl | hb
      · exact hac
      · exact TransCmp.lt_of_lt_of_isLE hac ((List.pairwise_cons.mp hRest).1 b hb)

/-- Values that the comparison does not tell apart stand next to each other in a sorted list, so
dropping repetitions of neighbours leaves the strictly sorted list of its members. -/
theorem destutter_eq_of_pairwise_lt [DecidableEq α] [TransCmp cmp] {l l' : List α}
    (h : l.Pairwise fun a b => (cmp a b).isLE = true)
    (hEq : ∀ a ∈ l, ∀ b ∈ l, cmp a b = .eq → a = b)
    (h' : l'.Pairwise fun a b => cmp a b = .lt) (hMem : ∀ a, a ∈ l ↔ a ∈ l') :
    l.destutter (· ≠ ·) = l' := by
  have hSublist : (l.destutter (· ≠ ·)).Sublist l := List.destutter_sublist _ l
  have hStrict : (l.destutter (· ≠ ·)).Pairwise fun a b => cmp a b = .lt :=
    pairwise_lt_of_isChain_ne (h.sublist hSublist) (List.isChain_destutter _ l)
      fun a ha b hb => hEq a (hSublist.subset ha) b (hSublist.subset hb)
  exact eq_of_pairwise_lt hStrict h' fun a => mem_destutter_ne.trans (hMem a)

end QuoteSearch
