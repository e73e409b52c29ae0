import QuoteSearch.Proofs.Decimal.Quantity
import QuoteSearch.Proofs.Text.Digit
import QuoteSearch.Timestamp

/-! # Timestamps

A timestamp spells the whole seconds of a moment in base sixty and is read back as them, so moments have
the same timestamp exactly if they have the same whole seconds.
-/

namespace QuoteSearch.Timestamp

open Text

/-- The greatest whole number of seconds up to a moment, as far as 64 bits hold it. A moment that is not
finite or not positive has none. -/
def secondsOf (moment : Float) : Nat :=
  match Decimal.value? moment with
  | none => 0
  | some value => if 0 < value then min ⌊value⌋₊ (2 ^ 64 - 1) else 0

theorem wholeSeconds_eq (moment : Float) : wholeSeconds (some moment) = secondsOf moment := by
  rw [secondsOf, Decimal.value?, wholeSeconds, Decimal.quantity_eq]
  cases moment.toModel.unpack with
  | notANumber => rfl
  | infinity sign => rfl
  | zero sign =>
    cases sign with
    | negative => rfl
    | positive =>
      change min (Decimal.floorScaled 0 Decimal.leastExponent) mostSeconds = 0
      rw [Decimal.floorScaled_eq, Nat.cast_zero, zero_mul, Nat.floor_zero, Nat.zero_min]
  | finite sign significand exponent hPos =>
    have hValue : (0 : ℚ) < significand * 2 ^ exponent := mul_pos (Nat.cast_pos.mpr hPos) (zpow_pos two_pos _)
    cases sign with
    | negative =>
      change 0 = if (0 : ℚ) < ((-significand : Int) : ℚ) * 2 ^ exponent then _ else 0
      rw [Int.cast_neg, Int.cast_natCast, neg_mul, if_neg (neg_neg_of_pos hValue).not_gt]
    | positive =>
      change min (Decimal.floorScaled significand exponent) mostSeconds =
        if (0 : ℚ) < ((significand : Int) : ℚ) * 2 ^ exponent then _ else 0
      rw [Int.cast_natCast, if_pos hValue, Decimal.floorScaled_eq]
      rfl

def fields (text : List Char) : List (List Char) := text.splitOn ':'

/-- The number that digits spell in base sixty. -/
def inSixties (digits : List Nat) : Nat := digits.foldl (fun n digit => 60 * n + digit) 0

/-- How a timestamp shows a number of seconds. -/
structure Shows (text : List Char) (seconds : Nat) : Prop where
  digits : ∀ field ∈ fields text, field ≠ [] ∧ ∀ c ∈ field, isDigit c = true
  /-- There is no zero in front of the first field. -/
  first : ∀ field ∈ (fields text).head?, field.head? = some '0' → field = ['0']
  others : ∀ field ∈ (fields text).tail, field.length = 2 ∧ naturalOf field < 60
  short : seconds < 3600 → (fields text).length = 2 ∧ ∀ field ∈ (fields text).head?, naturalOf field < 60
  long : 3600 ≤ seconds → (fields text).length = 3 ∧ ∀ field ∈ (fields text).head?, 1 ≤ naturalOf field
  value : inSixties ((fields text).map naturalOf) = seconds

theorem colon_not_mem {field : List Char} (h : ∀ c ∈ field, isDigit c = true) : ':' ∉ field :=
  fun hColon => absurd (h ':' hColon) (by decide)

theorem fields_short {total : Nat} (h : total < 3600) :
    fields (formatSeconds total) = Nat.toDigits 10 (total / 60) :: [total % 60].map (padded 2) := by
  have hMinutes : total % 3600 / 60 = total / 60 := by rw [Nat.mod_eq_of_lt h]
  rw [formatSeconds, if_neg (by omega), hMinutes, fields,
    List.splitOn_append_cons_self_of_not_mem (colon_not_mem isDigit_of_mem_toDigits),
    List.splitOn_eq_singleton (colon_not_mem isDigit_of_mem_padded), List.map_singleton]

theorem fields_long {total : Nat} (h : 3600 ≤ total) : fields (formatSeconds total) =
    Nat.toDigits 10 (total / 3600) :: [total % 3600 / 60, total % 60].map (padded 2) := by
  rw [formatSeconds, if_pos (by omega), fields, List.append_assoc, List.cons_append,
    List.splitOn_append_cons_self_of_not_mem (colon_not_mem isDigit_of_mem_toDigits),
    List.splitOn_append_cons_self_of_not_mem (colon_not_mem isDigit_of_mem_padded),
    List.splitOn_eq_singleton (colon_not_mem isDigit_of_mem_padded), List.map_cons, List.map_singleton]

theorem padded_two_ne_nil (n : Nat) : padded 2 n ≠ [] :=
  List.ne_nil_of_length_pos (Nat.lt_of_lt_of_le Nat.two_pos (le_length_padded 2 n))

/-- Fields that are written like those of a timestamp show what they spell. -/
theorem shows_of_fields {text : List Char} {first seconds : Nat} {others : List Nat}
    (hFields : fields text = Nat.toDigits 10 first :: others.map (padded 2)) (hOthers : ∀ n ∈ others, n < 60)
    (hValue : inSixties (first :: others) = seconds)
    (hShort : seconds < 3600 → others.length = 1 ∧ first < 60)
    (hLong : 3600 ≤ seconds → others.length = 2 ∧ 1 ≤ first) : Shows text seconds := by
  have hFirst : naturalOf (Nat.toDigits 10 first) = first := naturalOf_toDigits first
  constructor
  · rw [hFields, List.forall_mem_cons, List.forall_mem_map]
    exact ⟨⟨Nat.toDigits_ne_nil, isDigit_of_mem_toDigits⟩,
      fun n _ => ⟨padded_two_ne_nil n, isDigit_of_mem_padded⟩⟩
  · rw [hFields]
    rintro field ⟨⟩ hZero
    rw [eq_zero_of_head?_toDigits hZero]
    rfl
  · rw [hFields, List.tail_cons, List.forall_mem_map]
    intro n hn
    have hLess := hOthers n hn
    rw [naturalOf_padded]
    exact ⟨length_padded Nat.two_pos (by omega), hLess⟩
  · intro h
    obtain ⟨hLength, hLess⟩ := hShort h
    rw [hFields, List.length_cons, List.length_map, hLength]
    refine ⟨rfl, ?_⟩
    rintro field ⟨⟩
    rwa [hFirst]
  · intro h
    obtain ⟨hLength, hPos⟩ := hLong h
    rw [hFields, List.length_cons, List.length_map, hLength]
    refine ⟨rfl, ?_⟩
    rintro field ⟨⟩
    rwa [hFirst]
  · have hMap : (others.map (padded 2)).map naturalOf = others := by
      rw [List.map_map]
      exact List.map_id'' (naturalOf_padded 2) others
    rw [hFields, List.map_cons, hFirst, hMap, hValue]

theorem shows_formatSeconds (total : Nat) : Shows (formatSeconds total) total := by
  rcases Nat.lt_or_ge total 3600 with hShort | hLong
  · refine shows_of_fields (fields_short hShort) ?_ ?_ (fun _ => ⟨rfl, by omega⟩) (fun hLong => by omega)
    · simp only [List.forall_mem_singleton]
      omega
    · change 60 * (60 * 0 + total / 60) + total % 60 = total
      omega
  · refine shows_of_fields (fields_long hLong) ?_ ?_ (fun hShort => by omega) (fun _ => ⟨rfl, by omega⟩)
    · simp only [List.forall_mem_cons, List.not_mem_nil, false_imp_iff, implies_true, and_true]
      omega
    · change 60 * (60 * (60 * 0 + total / 3600) + total % 3600 / 60) + total % 60 = total
      omega

theorem timestamp_reads_back (moment : Float) :
    Shows (format (some moment)).toList (secondsOf moment) ∧
      ∀ other, format (some moment) = format (some other) ↔ secondsOf moment = secondsOf other := by
  have hShows : ∀ moment : Float, Shows (format (some moment)).toList (secondsOf moment) := by
    intro moment
    rw [format, String.toList_ofList, wholeSeconds_eq]
    exact shows_formatSeconds _
  refine ⟨hShows moment, fun other => ⟨fun hSame => ?_, fun hSame => ?_⟩⟩
  · rw [← (hShows moment).value, hSame, (hShows other).value]
  · rw [format, format, wholeSeconds_eq, wholeSeconds_eq, hSame]

end QuoteSearch.Timestamp
