import QuoteSearch.Proofs.Text.Utf8
import QuoteSearch.Text.Percent
import Mathlib.Data.List.Infix

/-! # Percent decoding

Decoding leaves a text as it is exactly if no percent sign stands in front of two hexadecimal digits, and
makes its bytes fewer otherwise.
-/

namespace QuoteSearch.Text

variable {bytes front rest : List Nat} {text : List Char} {c : Char}

/-- No percent sign stands in front of two hexadecimal digits. -/
def NothingEncoded (text : List Char) : Prop :=
  ∀ a b, ['%', a, b] <:+: text → (hexValue? a).isSome = false ∨ (hexValue? b).isSome = false

theorem nothingEncoded_of_not_mem (h : '%' ∉ text) : NothingEncoded text :=
  fun _ _ hHere => absurd (hHere.subset List.mem_cons_self) h

/-! ## Bytes -/

theorem isSome_encoded?_iff {b : Nat} : (encoded? b rest).isSome = true ↔ b = percentSign ∧
    ∃ x y tail, rest = x :: y :: tail ∧ (hexValue? (Char.ofNat x)).isSome = true ∧
      (hexValue? (Char.ofNat y)).isSome = true := by
  match rest with
  | [] | [_] => simp [encoded?]
  | x :: y :: tail =>
    simp only [List.cons.injEq, encoded?]
    constructor
    · intro h
      split_ifs at h with hPercent
      · refine ⟨hPercent, x, y, tail, ⟨rfl, rfl, rfl⟩, ?_⟩
        cases hHigh : hexValue? (Char.ofNat x) <;> cases hLow : hexValue? (Char.ofNat y) <;> simp_all
      · cases h
    · rintro ⟨hPercent, x, y, tail, ⟨rfl, rfl, rfl⟩, hHigh, hLow⟩
      obtain ⟨high, hHigh⟩ := Option.isSome_iff_exists.mp hHigh
      obtain ⟨low, hLow⟩ := Option.isSome_iff_exists.mp hLow
      simp [hPercent, hHigh, hLow]

def hasEncoded : List Nat → Bool
  | [] => false
  | b :: rest => (encoded? b rest).isSome || hasEncoded rest

theorem length_percentDecodeFrom_le (skip : Nat) (bytes : List Nat) :
    (percentDecodeFrom skip bytes).length ≤ bytes.length - skip := by
  induction bytes generalizing skip with
  | nil => exact Nat.zero_le _
  | cons b rest ih =>
    cases skip with
    | succ skip =>
      have hRest := ih skip
      rw [percentDecodeFrom, List.length_cons]
      omega
    | zero =>
      rw [percentDecodeFrom]
      cases encoded? b rest with
      | some byte =>
        have hRest := ih 2
        simp only [List.length_cons]
        omega
      | none =>
        have hRest := ih 0
        simp only [List.length_cons]
        omega

theorem length_percentDecode_le (bytes : List Nat) : (percentDecode bytes).length ≤ bytes.length :=
  length_percentDecodeFrom_le 0 bytes

theorem percentDecode_eq_self (h : hasEncoded bytes = false) : percentDecode bytes = bytes := by
  induction bytes with
  | nil => rfl
  | cons b rest ih =>
    rw [hasEncoded, Bool.or_eq_false_iff, Option.isSome_eq_false_iff, Option.isNone_iff_eq_none] at h
    rw [percentDecode, percentDecodeFrom, h.1]
    exact congrArg (b :: ·) (ih h.2)

theorem length_percentDecode_lt (h : hasEncoded bytes = true) : (percentDecode bytes).length < bytes.length := by
  induction bytes with
  | nil => cases h
  | cons b rest ih =>
    rw [hasEncoded, Bool.or_eq_true] at h
    rw [percentDecode, percentDecodeFrom]
    cases hEncoded : encoded? b rest with
    | some byte =>
      have hRest := length_percentDecodeFrom_le 2 rest
      obtain ⟨-, x, y, tail, rfl, -⟩ := isSome_encoded?_iff.mp (Option.isSome_of_eq_some hEncoded)
      simp only [List.length_cons] at hRest ⊢
      omega
    | none =>
      rw [hEncoded] at h
      exact Nat.succ_lt_succ (ih (h.resolve_left Bool.false_ne_true))

theorem hasEncoded_append (h : ∀ b ∈ front, b ≠ percentSign) (rest : List Nat) :
    hasEncoded (front ++ rest) = hasEncoded rest := by
  induction front with
  | nil => rfl
  | cons b front ih =>
    obtain ⟨hFirst, hFront⟩ := List.forall_mem_cons.mp h
    have hNone : (encoded? b (front ++ rest)).isSome = false :=
      Bool.eq_false_iff.mpr fun hSome => hFirst (isSome_encoded?_iff.mp hSome).1
    rw [List.cons_append, hasEncoded, hNone, ih hFront, Bool.false_or]

/-! ## Texts -/

theorem toNat_of_isSome_hexValue? (h : (hexValue? c).isSome = true) : 0 < c.toNat ∧ c.toNat < 0x80 := by
  rw [hexValue?] at h
  split_ifs at h with hDigit hLower hUpper
  · have hBounds := isDigit_iff.mp hDigit
    omega
  · simp only [Char.le_def, UInt32.le_iff_toNat_le] at hLower
    change 97 ≤ c.toNat ∧ c.toNat ≤ 102 at hLower
    omega
  · simp only [Char.le_def, UInt32.le_iff_toNat_le] at hUpper
    change 65 ≤ c.toNat ∧ c.toNat ≤ 70 at hUpper
    omega
  · cases h

theorem le_of_mem_utf8Bytes {n b : Nat} (hn : 0x80 ≤ n) (h : b ∈ utf8Bytes n) : 0x80 ≤ b := by
  rw [utf8Bytes, if_neg (by omega)] at h
  split_ifs at h <;> simp only [List.mem_cons, List.not_mem_nil, or_false] at h <;> omega

theorem bytesOf_cons (c : Char) (text : List Char) : bytesOf (c :: text) = utf8Bytes c.toNat ++ bytesOf text := rfl

theorem utf8Bytes_of_lt {n : Nat} (h : n < 0x80) : utf8Bytes n = [n] := by
  rw [utf8Bytes, if_pos h]

/-- A digit among the bytes of a text is a character of the text. -/
theorem exists_of_bytesOf_eq_cons {x : Nat} (h : bytesOf text = x :: rest)
    (hx : (hexValue? (Char.ofNat x)).isSome = true) : ∃ tail, text = Char.ofNat x :: tail ∧ rest = bytesOf tail := by
  have hDigit := toNat_of_isSome_hexValue? hx
  have hSmall : x < 0x80 := by
    have hCases := toNat_ofNat_cases x
    omega
  cases text with
  | nil => cases h
  | cons c tail =>
    rw [bytesOf_cons] at h
    obtain hAscii | hWide := Nat.lt_or_ge c.toNat 0x80
    · rw [utf8Bytes_of_lt hAscii] at h
      obtain ⟨rfl, rfl⟩ := List.cons.inj h
      rw [Char.ofNat_toNat]
      exact ⟨tail, rfl, rfl⟩
    · obtain ⟨first, others, hBytes, -⟩ := readChar_utf8Bytes c []
      rw [hBytes] at h
      obtain ⟨rfl, -⟩ := List.cons.inj h
      exact absurd (le_of_mem_utf8Bytes hWide (hBytes ▸ List.mem_cons_self)) (Nat.not_le.mpr hSmall)

theorem isSome_encoded?_bytesOf_iff : (encoded? percentSign (bytesOf text)).isSome = true ↔
    ∃ a b, [a, b] <+: text ∧ (hexValue? a).isSome = true ∧ (hexValue? b).isSome = true := by
  rw [isSome_encoded?_iff]
  constructor
  · rintro ⟨-, x, y, rest, hBytes, hHigh, hLow⟩
    obtain ⟨tail, rfl, hTail⟩ := exists_of_bytesOf_eq_cons hBytes hHigh
    obtain ⟨tail, rfl, -⟩ := exists_of_bytesOf_eq_cons hTail.symm hLow
    exact ⟨_, _, ⟨tail, rfl⟩, hHigh, hLow⟩
  · rintro ⟨a, b, ⟨tail, rfl⟩, hHigh, hLow⟩
    refine ⟨rfl, a.toNat, b.toNat, bytesOf tail, ?_, ?_, ?_⟩
    · rw [List.cons_append, List.cons_append, List.nil_append, bytesOf_cons, bytesOf_cons,
        utf8Bytes_of_lt (toNat_of_isSome_hexValue? hHigh).2, utf8Bytes_of_lt (toNat_of_isSome_hexValue? hLow).2]
      rfl
    · rwa [Char.ofNat_toNat]
    · rwa [Char.ofNat_toNat]

theorem nothingEncoded_cons_iff : NothingEncoded (c :: text) ↔
    (c = '%' → (encoded? percentSign (bytesOf text)).isSome = false) ∧ NothingEncoded text := by
  constructor
  · intro h
    refine ⟨fun hc => ?_, fun a b hInside => h a b (List.infix_cons hInside)⟩
    rw [← Bool.not_eq_true, isSome_encoded?_bytesOf_iff]
    rintro ⟨a, b, hPrefix, hHigh, hLow⟩
    have hHere : ['%', a, b] <+: c :: text := List.cons_prefix_cons.mpr ⟨hc.symm, hPrefix⟩
    rcases h a b hHere.isInfix with hNone | hNone
    · exact Bool.false_ne_true (hNone.symm.trans hHigh)
    · exact Bool.false_ne_true (hNone.symm.trans hLow)
  · rintro ⟨hFirst, hRest⟩ a b hInside
    rcases List.infix_cons_iff.mp hInside with hHere | hLater
    · obtain ⟨hc, hPrefix⟩ := List.cons_prefix_cons.mp hHere
      have hNone := hFirst hc.symm
      rw [← Bool.not_eq_true, isSome_encoded?_bytesOf_iff] at hNone
      rw [← Bool.not_eq_true, ← Bool.not_eq_true, ← not_and_or]
      exact fun hDigits => hNone ⟨a, b, hPrefix, hDigits⟩
    · exact hRest a b hLater

theorem ne_percentSign_of_mem {b : Nat} (hc : c ≠ '%') (h : b ∈ utf8Bytes c.toNat) : b ≠ percentSign := by
  rintro rfl
  obtain hAscii | hWide := Nat.lt_or_ge c.toNat 0x80
  · rw [utf8Bytes_of_lt hAscii, List.mem_singleton] at h
    exact hc (by rw [← Char.ofNat_toNat c, ← h]; rfl)
  · exact absurd (le_of_mem_utf8Bytes hWide h) (by decide)

theorem hasEncoded_bytesOf_iff : hasEncoded (bytesOf text) = false ↔ NothingEncoded text := by
  induction text with
  | nil => exact iff_of_true rfl fun a b hInside => absurd hInside.length_le (Nat.not_succ_le_zero 2)
  | cons c text ih =>
    rw [nothingEncoded_cons_iff, bytesOf_cons, ← ih]
    by_cases hc : c = '%'
    · rw [hc]
      change ((encoded? percentSign (bytesOf text)).isSome || hasEncoded (bytesOf text)) = false ↔ _
      simp
    · rw [hasEncoded_append (fun b hb => ne_percentSign_of_mem hc hb)]
      simp [hc]

theorem percentDecodeText_eq_self (h : NothingEncoded text) : percentDecodeText text = .ok text := by
  rw [percentDecodeText, percentDecode_eq_self (hasEncoded_bytesOf_iff.mpr h), decode_bytesOf]

/-- No text is decoded as a longer one, and it takes fewer bytes if something is encoded. -/
theorem length_bytesOf_le_of_percentDecodeText {decoded : List Char} (h : percentDecodeText text = .ok decoded) :
    (bytesOf decoded).length ≤ (bytesOf text).length ∧
      ((bytesOf decoded).length = (bytesOf text).length → NothingEncoded text) := by
  have hDecoded := length_bytesOf_le_of_decode h
  refine ⟨Nat.le_trans hDecoded (length_percentDecode_le _), fun hSame => ?_⟩
  rw [← hasEncoded_bytesOf_iff, ← Bool.not_eq_true]
  intro hEncoded
  have hFewer := length_percentDecode_lt hEncoded
  omega

end QuoteSearch.Text
