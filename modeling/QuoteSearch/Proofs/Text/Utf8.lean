import QuoteSearch.Text.Utf8
import QuoteSearch.Proofs.Basic
import Mathlib.Algebra.Group.Nat.Defs

/-! # Decoding UTF-8

The bytes of a text are decoded as the text, and no bytes are decoded as a text with more bytes.
-/

namespace QuoteSearch.Text

variable {c : Char} {b position skip : Nat} {bytes rest : List Nat} {text : List Char}

/-! ## The bytes of a text -/

theorem length_utf8Bytes_le {n : Nat} : (utf8Bytes n).length ≤ 4 := by
  rw [utf8Bytes]
  split_ifs <;> simp

theorem length_utf8Bytes_le_two {n : Nat} (h : n < 0x800) : (utf8Bytes n).length ≤ 2 := by
  rw [utf8Bytes]
  split_ifs <;> simp

theorem length_utf8Bytes_le_three {n : Nat} (h : n < 0x10000) : (utf8Bytes n).length ≤ 3 := by
  rw [utf8Bytes]
  split_ifs <;> simp

/-! ## Reading the bytes of a text -/

theorem readTail_continuation (point length missing n : Nat) (rest : List Nat) :
    readTail point length (missing + 1) ((0x80 + n % 0x40) :: rest) =
      readTail (point * 0x40 + n % 0x40) (length + 1) missing rest := by
  have hContinues : isContinuation (0x80 + n % 0x40) = true := by
    simp only [isContinuation, Bool.and_eq_true, decide_eq_true_eq]
    omega
  have hBits : (0x80 + n % 0x40) % 0x40 = n % 0x40 := by omega
  rw [readTail, if_pos hContinues, hBits]

theorem readChar_three {first second : Nat} (hWidth : widthOf first = 3) (hSecond : maySecond first second = true)
    (rest : List Nat) : readChar first (second :: rest) = readTail (first % 0x10) 1 2 (second :: rest) := by
  rw [readChar, hWidth]
  simp [hSecond]

theorem readChar_four {first second : Nat} (hWidth : widthOf first = 4) (hSecond : maySecond first second = true)
    (rest : List Nat) : readChar first (second :: rest) = readTail (first % 0x08) 1 3 (second :: rest) := by
  rw [readChar, hWidth]
  simp [hSecond]

theorem readChar_utf8Bytes (c : Char) (rest : List Nat) : ∃ first tail, utf8Bytes c.toNat = first :: tail ∧
    readChar first (tail ++ rest) = ⟨.ok c, tail.length + 1⟩ := by
  have hPoint : Char.ofNat c.toNat = c := Char.ofNat_toNat c
  have hRange : c.toNat < 0xD800 ∨ 0xDFFF < c.toNat ∧ c.toNat < 0x110000 := c.valid
  generalize c.toNat = n at hPoint hRange
  rw [utf8Bytes]
  split_ifs with hOne hTwo hThree
  · refine ⟨_, _, rfl, ?_⟩
    have hWidth : widthOf n = 1 := by rw [widthOf, if_pos hOne]
    rw [readChar, hWidth, hPoint]
    rfl
  · refine ⟨_, _, rfl, ?_⟩
    have hWidth : widthOf (0xC0 + n / 0x40) = 2 := by
      simp only [widthOf]
      split_ifs <;> omega
    have hNumber : (0xC0 + n / 0x40) % 0x20 * 0x40 + n % 0x40 = n := by omega
    rw [readChar, hWidth]
    rw [List.cons_append, List.nil_append, readTail_continuation, hNumber, readTail, hPoint]
    rfl
  · refine ⟨_, _, rfl, ?_⟩
    have hWidth : widthOf (0xE0 + n / 0x1000) = 3 := by
      simp only [widthOf]
      split_ifs <;> omega
    have hSecond : maySecond (0xE0 + n / 0x1000) (0x80 + n / 0x40 % 0x40) = true := by
      simp only [maySecond, isContinuation]
      split_ifs <;> simp only [Bool.and_eq_true, decide_eq_true_eq] <;> omega
    have hNumber : ((0xE0 + n / 0x1000) % 0x10 * 0x40 + n / 0x40 % 0x40) * 0x40 + n % 0x40 = n := by omega
    rw [List.cons_append, readChar_three hWidth hSecond]
    rw [List.cons_append, List.nil_append, readTail_continuation, readTail_continuation, hNumber, readTail, hPoint]
    rfl
  · refine ⟨_, _, rfl, ?_⟩
    have hWidth : widthOf (0xF0 + n / 0x40000) = 4 := by
      simp only [widthOf]
      split_ifs <;> omega
    have hSecond : maySecond (0xF0 + n / 0x40000) (0x80 + n / 0x1000 % 0x40) = true := by
      simp only [maySecond, isContinuation]
      split_ifs <;> simp only [Bool.and_eq_true, decide_eq_true_eq] <;> omega
    have hNumber : (((0xF0 + n / 0x40000) % 0x08 * 0x40 + n / 0x1000 % 0x40) * 0x40 + n / 0x40 % 0x40) * 0x40 +
        n % 0x40 = n := by omega
    rw [List.cons_append, readChar_four hWidth hSecond]
    rw [List.cons_append, List.cons_append, List.nil_append, readTail_continuation, readTail_continuation,
      readTail_continuation, hNumber, readTail, hPoint]
    rfl

theorem decodeFrom_append (position : Nat) (taken rest : List Nat) :
    decodeFrom position taken.length (taken ++ rest) = decodeFrom (position + taken.length) 0 rest := by
  induction taken generalizing position with
  | nil => rfl
  | cons b taken ih =>
    rw [List.cons_append, List.length_cons, decodeFrom, ih, Nat.add_assoc, Nat.add_comm 1]

theorem decodeFrom_bytesOf (position : Nat) (text : List Char) :
    decodeFrom position 0 (bytesOf text) = .ok text := by
  induction text generalizing position with
  | nil => rfl
  | cons c text ih =>
    obtain ⟨first, tail, hBytes, hRead⟩ := readChar_utf8Bytes c (bytesOf text)
    rw [bytesOf, List.flatMap_cons, ← bytesOf, hBytes, List.cons_append, decodeFrom]
    simp only [hRead, Nat.add_sub_cancel, decodeFrom_append, ih]
    rfl

theorem decode_bytesOf (text : List Char) : decode (bytesOf text) = .ok text := decodeFrom_bytesOf 0 text

/-! ## No text is longer than its bytes -/

theorem toNat_ofNat_cases (n : Nat) : (Char.ofNat n).toNat = n ∨ (Char.ofNat n).toNat = 0 := by
  by_cases hValid : n.isValidChar
  · have hChar : Char.ofNat n = Char.ofNatAux n hValid := dif_pos hValid
    exact .inl (congrArg Char.toNat hChar)
  · exact .inr (congrArg Char.toNat (dif_neg hValid))

theorem toNat_ofNat_le (n : Nat) : (Char.ofNat n).toNat ≤ n := by
  have hCases := toNat_ofNat_cases n
  omega

theorem readTail_eq_ok {point length missing taken : Nat}
    (h : readTail point length missing bytes = ⟨.ok c, taken⟩) :
    taken = length + missing ∧ missing ≤ bytes.length ∧ c.toNat < (point + 1) * 0x40 ^ missing := by
  induction missing generalizing point length bytes with
  | zero =>
    rw [readTail, Utf8Step.mk.injEq, Except.ok.injEq] at h
    obtain ⟨rfl, rfl⟩ := h
    have hPoint := toNat_ofNat_le point
    exact ⟨rfl, Nat.zero_le _, by omega⟩
  | succ missing ih =>
    cases bytes with
    | nil => cases h
    | cons b bytes =>
      rw [readTail] at h
      split at h
      · obtain ⟨hTaken, hMissing, hPoint⟩ := ih h
        refine ⟨by omega, Nat.succ_le_succ hMissing, Nat.lt_of_lt_of_le hPoint ?_⟩
        rw [Nat.pow_succ, Nat.mul_comm (0x40 ^ missing), ← Nat.mul_assoc]
        exact Nat.mul_le_mul_right _ (by omega)
      · cases h

theorem lt_of_widthOf_eq_one {first : Nat} (h : widthOf first = 1) : first < 0x80 := by
  rw [widthOf] at h
  split_ifs at h <;> omega

theorem widthOf_le (first : Nat) : widthOf first ≤ 4 := by
  rw [widthOf]
  split_ifs <;> omega

theorem readChar_eq_ok {first taken : Nat} (h : readChar first rest = ⟨.ok c, taken⟩) :
    (utf8Bytes c.toNat).length ≤ taken ∧ 1 ≤ taken ∧ taken ≤ rest.length + 1 := by
  rw [readChar] at h
  split at h
  case h_1 => cases h
  case h_2 hWidth =>
    rw [Utf8Step.mk.injEq, Except.ok.injEq] at h
    obtain ⟨rfl, rfl⟩ := h
    have hPoint := Nat.lt_of_le_of_lt (toNat_ofNat_le first) (lt_of_widthOf_eq_one hWidth)
    rw [utf8Bytes, if_pos hPoint]
    exact ⟨Nat.le_refl 1, Nat.le_refl 1, Nat.le_add_left 1 _⟩
  case h_3 =>
    obtain ⟨rfl, hMissing, hPoint⟩ := readTail_eq_ok h
    exact ⟨length_utf8Bytes_le_two (by omega), by omega, by omega⟩
  case h_4 hZero hOne hTwo =>
    have hWide : widthOf first = 3 ∨ widthOf first = 4 := by
      have hMost := widthOf_le first
      change widthOf first ≠ 0 at hZero
      change widthOf first ≠ 1 at hOne
      change widthOf first ≠ 2 at hTwo
      omega
    cases rest with
    | nil => cases h
    | cons second rest =>
      simp only at h
      split at h
      · obtain ⟨rfl, hMissing, hPoint⟩ := readTail_eq_ok h
        refine ⟨?_, by omega, by omega⟩
        obtain hThree | hFour := hWide
        · rw [hThree, if_pos rfl] at hPoint
          rw [hThree]
          exact length_utf8Bytes_le_three (by omega)
        · rw [hFour]
          exact length_utf8Bytes_le
      · cases h

theorem length_bytesOf_le (position : Nat) (hSkip : skip ≤ bytes.length)
    (h : decodeFrom position skip bytes = .ok text) : (bytesOf text).length + skip ≤ bytes.length := by
  induction bytes generalizing position skip text with
  | nil =>
    rw [decodeFrom] at h
    obtain rfl := Except.ok.inj h
    rw [bytesOf, List.flatMap_nil, List.length_nil, Nat.zero_add]
    exact hSkip
  | cons b rest ih =>
    cases skip with
    | succ skip => exact Nat.succ_le_succ (ih (position + 1) (Nat.le_of_succ_le_succ hSkip) h)
    | zero =>
      rw [decodeFrom] at h
      cases hRead : readChar b rest with
      | mk outcome taken =>
        rw [hRead] at h
        cases outcome with
        | error fault => cases h
        | ok c =>
          obtain ⟨hLength, hPos, hTaken⟩ := readChar_eq_ok hRead
          obtain ⟨later, hLater, rfl⟩ := exists_of_map_eq_ok h
          have hRest := ih (position + 1) (Nat.sub_le_of_le_add hTaken) hLater
          change (bytesOf later).length + (taken - 1) ≤ rest.length at hRest
          rw [bytesOf, List.flatMap_cons, ← bytesOf, List.length_append, List.length_cons]
          omega

theorem length_bytesOf_le_of_decode (h : decode bytes = .ok text) : (bytesOf text).length ≤ bytes.length :=
  length_bytesOf_le 0 (Nat.zero_le _) h

end QuoteSearch.Text
