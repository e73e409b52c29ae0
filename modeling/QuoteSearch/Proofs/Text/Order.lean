import QuoteSearch.Proofs.Text.Digit
import Mathlib.Data.String.Basic

/-! # The order of texts

Texts are compared character by character, and this is the order of their UTF-8 bytes. Texts that
begin with stretches of the same length are compared by these first, and digits of the same number
are in the order of the numbers they spell.
-/

namespace QuoteSearch.Text

open Std

section

variable {α : Type} [Ord α]

theorem compare_append_self [ReflOrd α] (front a b : List α) :
    compare (front ++ a) (front ++ b) = compare a b := by
  induction front with
  | nil => rfl
  | cons c front ih =>
    rw [List.cons_append, List.cons_append, List.compare_cons_cons, ReflOrd.compare_self, Ordering.eq_then, ih]

theorem compare_append {a b : List α} (h : a.length = b.length) (x y : List α) :
    compare (a ++ x) (b ++ y) = (compare a b).then (compare x y) := by
  induction a generalizing b with
  | nil =>
    cases b with
    | nil => rfl
    | cons _ _ => cases h
  | cons c a ih =>
    cases b with
    | nil => cases h
    | cons d b =>
      rw [List.cons_append, List.cons_append, List.compare_cons_cons, ih (Nat.succ.inj h),
        List.compare_cons_cons, Ordering.then_assoc]

end

/-- The UTF-8 bytes of a text. -/
def bytes (s : String) : List UInt8 := s.toUTF8.data.toList

theorem bytes_eq (s : String) : bytes s = s.toList.flatMap String.utf8EncodeChar := by
  rw [bytes, String.toUTF8_eq_toByteArray, ← String.utf8Encode_toList, List.utf8Encode, List.data_toByteArray]

theorem compare_ofNat_eq_lt {m n : Nat} : compare (UInt8.ofNat m) (UInt8.ofNat n) = .lt ↔ m % 256 < n % 256 := by
  rw [LawfulLTCmp.eq_lt_iff_lt, UInt8.lt_iff_toNat_lt]
  rfl

theorem compare_ofNat_eq_eq {m n : Nat} : compare (UInt8.ofNat m) (UInt8.ofNat n) = .eq ↔ m % 256 = n % 256 := by
  rw [LawfulEqCmp.compare_eq_iff_eq, ← UInt8.toNat_inj]
  rfl

/-- The first byte that differs decides as the characters do. -/
theorem compare_encode_append {c d : Char} (h : compare c d = .lt) (x y : List UInt8) :
    compare (String.utf8EncodeChar c ++ x) (String.utf8EncodeChar d ++ y) = .lt := by
  have hLess : c.val.toNat < d.val.toNat := by
    rwa [LawfulLTCmp.eq_lt_iff_lt, Char.lt_def, UInt32.lt_iff_toNat_lt] at h
  have hMost : d.val.toNat < 0x110000 := by
    rcases d.valid with hLow | ⟨-, hHigh⟩
    · exact Nat.lt_trans hLow (by decide)
    · exact hHigh
  have hTwo : ∀ n, n / 4096 = n / 64 / 64 := by omega
  have hThree : ∀ n, n / 262144 = n / 64 / 64 / 64 := by omega
  simp only [String.utf8EncodeChar, hTwo, hThree]
  split_ifs <;> simp only [List.cons_append, List.compare_cons_cons, Ordering.then_eq_lt,
    compare_ofNat_eq_lt, compare_ofNat_eq_eq] <;> omega

theorem compare_flatMap_encode (a b : List Char) :
    compare (a.flatMap String.utf8EncodeChar) (b.flatMap String.utf8EncodeChar) = compare a b := by
  have hNonempty : ∀ (c : Char) (x : List UInt8), ∃ n y, String.utf8EncodeChar c ++ x = n :: y := fun c x =>
    List.exists_cons_of_ne_nil (List.append_ne_nil_of_left_ne_nil String.utf8EncodeChar_ne_nil x)
  induction a generalizing b with
  | nil =>
    cases b with
    | nil => rfl
    | cons d b =>
      obtain ⟨n, y, hFirst⟩ := hNonempty d (b.flatMap String.utf8EncodeChar)
      rw [List.flatMap_cons, hFirst]
      rfl
  | cons c a ih =>
    cases b with
    | nil =>
      obtain ⟨n, x, hFirst⟩ := hNonempty c (a.flatMap String.utf8EncodeChar)
      rw [List.flatMap_cons, hFirst]
      rfl
    | cons d b =>
      rw [List.flatMap_cons, List.flatMap_cons, List.compare_cons_cons]
      cases hChar : compare c d with
      | lt => exact compare_encode_append hChar _ _
      | eq => rw [LawfulEqCmp.eq_of_compare hChar, compare_append_self, ih, Ordering.eq_then]
      | gt =>
        have hLess : compare d c = .lt := OrientedCmp.lt_of_gt hChar
        exact OrientedCmp.gt_of_lt (compare_encode_append hLess _ _)

theorem compare_eq_lt_iff {α : Type} [LT α] [Ord α] [LawfulLTOrd α] [LawfulEqOrd α] {a b : List α} :
    compare a b = .lt ↔ a < b := by
  induction a generalizing b with
  | nil => cases b <;> simp
  | cons c a ih =>
    cases b with
    | nil => simp
    | cons d b =>
      rw [List.compare_cons_cons, Ordering.then_eq_lt, LawfulLTCmp.eq_lt_iff_lt, LawfulEqCmp.compare_eq_iff_eq, ih,
        List.cons_lt_cons_iff]

theorem compare_toList (a b : String) : compare a.toList b.toList = compare a b := by
  have hLess : ∀ a b : String, compare a.toList b.toList = .lt ↔ compare a b = .lt := fun a b =>
    (compare_eq_lt_iff.trans String.lt_iff_toList_lt.symm).trans LawfulLTCmp.eq_lt_iff_lt.symm
  cases hOrder : compare a b with
  | lt => exact (hLess a b).mpr hOrder
  | eq =>
    rw [LawfulEqCmp.eq_of_compare hOrder]
    exact ReflOrd.compare_self
  | gt =>
    exact OrientedCmp.gt_of_lt ((hLess b a).mpr (OrientedCmp.lt_of_gt hOrder))

/-- Texts are in the order of their bytes. -/
theorem compare_bytes (a b : String) : compare (bytes a) (bytes b) = compare a b := by
  rw [bytes_eq, bytes_eq, compare_flatMap_encode, compare_toList]

theorem compare_digitValue {c d : Char} (hc : isDigit c = true) (hd : isDigit d = true) :
    compare c d = compare (digitValue c) (digitValue d) := by
  have hLess : ∀ {c d : Char}, isDigit c = true → isDigit d = true →
      (compare c d = .lt ↔ compare (digitValue c) (digitValue d) = .lt) := by
    intro c d hc hd
    rw [isDigit_iff] at hc hd
    rw [LawfulLTCmp.eq_lt_iff_lt, Nat.compare_eq_lt, Char.lt_def, UInt32.lt_iff_toNat_lt]
    change c.toNat < d.toNat ↔ c.toNat - 48 < d.toNat - 48
    omega
  cases hOrder : compare c d with
  | lt => exact ((hLess hc hd).mp hOrder).symm
  | eq => rw [LawfulEqCmp.eq_of_compare hOrder, ReflOrd.compare_self]
  | gt => exact (OrientedCmp.gt_of_lt ((hLess hd hc).mp (OrientedCmp.lt_of_gt hOrder))).symm

theorem compare_mul_add {base m n x y : Nat} (hx : x < base) (hy : y < base) :
    compare (base * m + x) (base * n + y) = (compare m n).then (compare x y) := by
  have hLess : ∀ {m n x y : Nat}, x < base → m < n → base * m + x < base * n + y := fun {m n x y} hx hmn =>
    calc
      base * m + x < base * (m + 1) := by
        rw [Nat.mul_succ]
        exact Nat.add_lt_add_left hx _
      _ ≤ base * n := Nat.mul_le_mul_left base hmn
      _ ≤ base * n + y := Nat.le_add_right _ _
  rcases Nat.lt_trichotomy m n with hmn | rfl | hmn
  · rw [Nat.compare_eq_lt.mpr (hLess hx hmn), Nat.compare_eq_lt.mpr hmn]
    rfl
  · rw [ReflOrd.compare_self, Ordering.eq_then]
    simp only [Nat.compare_eq_ite_lt, Nat.add_lt_add_iff_left]
  · rw [Nat.compare_eq_gt.mpr (hLess hy hmn), Nat.compare_eq_gt.mpr hmn]
    rfl

/-- Digits of the same number are in the order of the numbers that they spell. -/
theorem compare_digits {a b : List Char} (h : a.length = b.length) (ha : ∀ c ∈ a, isDigit c = true)
    (hb : ∀ c ∈ b, isDigit c = true) : compare a b = compare (naturalOf a) (naturalOf b) := by
  induction a using List.reverseRecOn generalizing b with
  | nil =>
    rw [List.eq_nil_of_length_eq_zero h.symm]
    rfl
  | append_singleton a c ih =>
    rcases List.eq_nil_or_concat b with rfl | ⟨b, d, rfl⟩
    · simp at h
    · have hLength : a.length = b.length := by simpa using h
      have hc : isDigit c = true := ha c (by simp)
      have hd : isDigit d = true := hb d (by simp)
      have hFront : compare a b = compare (naturalOf a) (naturalOf b) :=
        ih hLength (fun x hx => ha x (by simp [hx])) fun x hx => hb x (by simp [hx])
      have hLast : compare [c] [d] = compare (digitValue c) (digitValue d) := by
        rw [List.compare_cons_cons, compare_digitValue hc hd]
        exact Ordering.then_eq
      rw [List.concat_eq_append, compare_append hLength, hFront, hLast, naturalOf_concat, naturalOf_concat,
        compare_mul_add (digitValue_lt hc) (digitValue_lt hd)]

end QuoteSearch.Text
