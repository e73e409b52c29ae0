import QuoteSearch.Page
import Mathlib.Algebra.Order.Group.Nat
import Mathlib.Data.List.Basic

/-! # Pages put together

The pages of a list follow each other without a gap, all but the last of them are full, and nothing
is left for a page after the last one.
-/

namespace QuoteSearch.Page

variable {α : Type} {p : Page} {entries : List α}

theorem size_pos (hSize : p.size ≠ 0) : 0 < p.size.toNat :=
  Nat.pos_of_ne_zero fun hZero => hSize (UInt32.toNat_inj.mp hZero)

/-- The number of pages that hold some of `total` entries. -/
def filled (p : Page) (total : Nat) : Nat := (total + (p.size.toNat - 1)) / p.size.toNat

theorem lt_filled_iff (hSize : p.size ≠ 0) {number total : Nat} :
    number < p.filled total ↔ number * p.size.toNat < total := by
  have hPos := size_pos hSize
  rw [← Nat.succ_le_iff, filled, Nat.le_div_iff_mul_le hPos, Nat.succ_mul]
  omega

theorem filled_mul_lt (hSize : p.size ≠ 0) (total : Nat) :
    p.filled total * p.size.toNat < total + p.size.toNat := by
  have hPos := size_pos hSize
  have hEntries : p.filled total * p.size.toNat ≤ total + (p.size.toNat - 1) := Nat.div_mul_le_self _ _
  omega

theorem lt_count_iff (hSize : p.size ≠ 0) {number total : Nat} (hNumber : 0 < number) :
    number < p.count total ↔ number * p.size.toNat < total := by
  rw [count, if_neg hSize, ← filled, ← lt_filled_iff hSize]
  omega

theorem count_pos (p : Page) (total : Nat) : 0 < p.count total := by
  rw [count]
  split
  · exact Nat.one_pos
  · exact Nat.lt_of_lt_of_le Nat.one_pos (Nat.le_max_right _ _)

theorem le_count_mul (hSize : p.size ≠ 0) (total : Nat) : total ≤ p.count total * p.size.toNat :=
  Nat.le_of_not_lt fun hMore => Nat.lt_irrefl _ ((lt_count_iff hSize (p.count_pos total)).mpr hMore)

theorem count_le (p : Page) (total : Nat) : p.count total ≤ total + 1 := by
  rw [count]
  split
  · exact Nat.le_add_left 1 total
  · rename_i hSize
    have hEntries : total ≤ p.size.toNat * total := Nat.le_mul_of_pos_left total (size_pos hSize)
    refine Nat.max_le.mpr ⟨Nat.div_le_of_le_mul ?_, Nat.le_add_left 1 total⟩
    rw [Nat.mul_succ]
    omega

/-! ## The entries that are left out -/

theorem offset_eq (hBefore : p.before < 2 ^ 63) : p.offset = p.before := by
  have hValues : wordValues = 2 ^ 64 := rfl
  rw [offset, hValues]
  apply Int.bmod_eq_of_le_mul_two <;> omega

theorem toNat_offset (hBefore : p.before < 2 ^ 63) : p.offset.toNat = p.before := by
  rw [offset_eq hBefore, Int.toNat_natCast]

/-- Whatever the page is, no entries are left out but those on the pages before it. -/
theorem toNat_offset_le (p : Page) : p.offset.toNat ≤ p.before := by
  have hValues : (wordValues : Int) = 2 ^ 64 := rfl
  rw [offset, Int.bmod, hValues]
  split <;> omega

theorem before_lt (p : Page) : p.before < 2 ^ 64 := by
  have hNumber : p.number.toNat - 1 ≤ 2 ^ 32 - 1 := Nat.sub_le_sub_right p.number.toNat_lt.le 1
  have hSize : p.size.toNat ≤ 2 ^ 32 - 1 := Nat.le_sub_one_of_lt p.size.toNat_lt
  exact (Nat.mul_le_mul hNumber hSize).trans_lt (by decide)

theorem before_add_size (hNumber : 0 < p.number.toNat) :
    p.before + p.size.toNat = p.number.toNat * p.size.toNat := by
  rw [before, ← Nat.succ_mul, Nat.succ_eq_add_one, Nat.sub_add_cancel hNumber]

theorem slice_eq (hBefore : p.before < 2 ^ 63) (entries : List α) :
    p.slice entries = (entries.drop p.before).take p.size.toNat := by
  rw [slice, limit, toNat_offset hBefore]

/-- A page too far back is taken for the first one. -/
theorem slice_of_le (hBefore : 2 ^ 63 ≤ p.before) (entries : List α) : p.slice entries = entries.take p.size.toNat := by
  have hValues : (wordValues : Int) = 2 ^ 64 := rfl
  have hLess := p.before_lt
  have hNone : p.offset.toNat = 0 := by
    rw [offset, Int.bmod, hValues]
    split <;> omega
  rw [slice, limit, hNone, List.drop_zero]

theorem slice_nil (p : Page) : p.slice ([] : List α) = [] := by
  rw [slice, List.drop_nil, List.take_nil]

theorem take_append_slice (entries : List α) (hNumber : 0 < p.number.toNat) (hBefore : p.before < 2 ^ 63) :
    entries.take p.before ++ p.slice entries = entries.take (p.number.toNat * p.size.toNat) := by
  rw [slice_eq hBefore, ← List.take_add, before_add_size hNumber]

theorem length_slice (hSize : p.size ≠ 0) (hNumber : 0 < p.number.toNat) (hBefore : p.before < 2 ^ 63)
    (hFull : p.number.toNat < p.count entries.length) : (p.slice entries).length = p.size.toNat := by
  rw [lt_count_iff hSize hNumber, ← before_add_size hNumber] at hFull
  rw [slice_eq hBefore, List.length_take, List.length_drop]
  omega

/-- A page that a store finds nothing for lies behind all the entries. -/
theorem length_le_of_slice_eq_nil (hSize : p.size ≠ 0) (h : p.slice entries = []) : entries.length ≤ p.before := by
  have hPos := size_pos hSize
  have hOffset := p.toNat_offset_le
  rw [slice, limit, ← List.length_eq_zero_iff, List.length_take, List.length_drop] at h
  omega

theorem slice_eq_nil_iff (hSize : p.size ≠ 0) (hBefore : p.before < 2 ^ 63) :
    p.slice entries = [] ↔ entries.length ≤ p.before := by
  refine ⟨length_le_of_slice_eq_nil hSize, fun hLength => ?_⟩
  rw [slice_eq hBefore, List.drop_eq_nil_of_le hLength, List.take_nil]

theorem slice_eq_nil (hSize : p.size ≠ 0) (hBefore : p.before < 2 ^ 63)
    (hAfter : p.count entries.length < p.number.toNat) : p.slice entries = [] := by
  rw [slice_eq_nil_iff hSize hBefore]
  exact (le_count_mul hSize entries.length).trans (Nat.mul_le_mul_right _ (Nat.le_sub_one_of_lt hAfter))

/-! ## All pages -/

theorem slice_sublist (p : Page) (entries : List α) : (p.slice entries).Sublist entries :=
  (List.take_sublist _ _).trans (List.drop_sublist _ _)

theorem toNat_ofNat {number : Nat} (h : number ≤ largestNumber) : (UInt32.ofNat number).toNat = number :=
  UInt32.toNat_ofNat_of_lt' (Nat.lt_of_le_of_lt h (by decide))

theorem before_ofNat {number : Nat} (hNumber : number ≤ largestNumber) (size : UInt32) :
    before ⟨UInt32.ofNat number, size⟩ = (number - 1) * size.toNat := by
  rw [before, toNat_ofNat hNumber]

theorem before_ofNat_succ {number : Nat} (hNumber : number < largestNumber) (size : UInt32) :
    before ⟨UInt32.ofNat (number + 1), size⟩ = number * size.toNat := before_ofNat hNumber size

theorem before_ofNat_le {number last : Nat} (h : number ≤ last) (hLast : last ≤ largestNumber) (size : UInt32) :
    before ⟨UInt32.ofNat number, size⟩ ≤ before ⟨UInt32.ofNat last, size⟩ := by
  rw [before_ofNat (h.trans hLast), before_ofNat hLast]
  exact Nat.mul_le_mul_right _ (Nat.sub_le_sub_right h 1)

/-- The pages up to one that a store can be asked for show what stands up to its end. -/
theorem flatMap_slice (size : UInt32) (entries : List α) {pages : Nat} (hPages : pages ≤ largestNumber)
    (hBefore : before ⟨UInt32.ofNat pages, size⟩ < 2 ^ 63) :
    ((List.range' 1 pages).flatMap fun i => slice ⟨UInt32.ofNat i, size⟩ entries) =
      entries.take (pages * size.toNat) := by
  induction pages with
  | zero => rw [Nat.zero_mul, List.take_zero, List.range'_zero, List.flatMap_nil]
  | succ pages ih =>
    have hEarlier := ih (Nat.le_of_succ_le hPages) ((before_ofNat_le (Nat.le_succ pages) hPages size).trans_lt hBefore)
    have hNumber : (UInt32.ofNat (pages + 1)).toNat = pages + 1 := toNat_ofNat hPages
    have hStep := take_append_slice (p := ⟨UInt32.ofNat (pages + 1), size⟩) entries
      (by rw [hNumber]; exact Nat.succ_pos pages) hBefore
    rw [before_ofNat_succ hPages, hNumber] at hStep
    rw [List.range'_1_concat, List.flatMap_append, hEarlier, List.flatMap_singleton, Nat.add_comm 1 pages, hStep]

/-- The pages in front of one that a store finds nothing for show all the entries. -/
theorem flatMap_slice_of_slice_eq_nil {size : UInt32} (hSize : size ≠ 0) {pages : Nat} (hPages : pages < largestNumber)
    (hEmpty : slice ⟨UInt32.ofNat (pages + 1), size⟩ entries = []) :
    ((List.range' 1 pages).flatMap fun i => slice ⟨UInt32.ofNat i, size⟩ entries) = entries := by
  by_cases hBefore : before ⟨UInt32.ofNat (pages + 1), size⟩ < 2 ^ 63
  · have hEarlier := (before_ofNat_le (Nat.le_succ pages) hPages size).trans_lt hBefore
    have hLength := length_le_of_slice_eq_nil hSize hEmpty
    rw [before_ofNat_succ hPages] at hLength
    rw [flatMap_slice size entries hPages.le hEarlier, List.take_of_length_le hLength]
  · -- The page is taken for the first one, so there is nothing at all.
    rw [slice_of_le (Nat.le_of_not_lt hBefore), List.take_eq_nil_iff] at hEmpty
    obtain rfl := hEmpty.resolve_left (size_pos (p := ⟨0, size⟩) hSize).ne'
    exact List.flatMap_eq_nil_iff.mpr fun i _ => slice_nil _

end QuoteSearch.Page
