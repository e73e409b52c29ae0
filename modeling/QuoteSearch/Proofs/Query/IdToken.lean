import QuoteSearch.Proofs.Query.TagPlaces
import QuoteSearch.Proofs.Query.VideoId

/-! # What is read as an id

An id is eleven characters behind the first `id:` that has them, or all of a query. What follows behind
a tag is not looked at, so that a longer token is cut after eleven characters. The two characters that
are spellings of ASCII letters make an id too, though no id holds them.
-/

namespace QuoteSearch.Query

open Text

/-- What a text begins with of the characters of an id. -/
def idToken (text : List Char) : List Char := text.takeWhile isBareIdChar

/-- The id of a query is read in front of the rest of it, if no earlier `id:` has one behind it. -/
def ReadsIdBefore (raw id rest : List Char) : Prop :=
  (∃ before after, Tag.id.FirstBetween raw before after ∧ after.dropWhile isBlank = id ++ rest ∧
    id.length = idLength ∧ ∀ c ∈ id, isTaggedIdChar c = true) ∨
  ((∀ before after, Tag.id.StandsBetween raw before after → ¬ Tag.id.HasValue after) ∧
    isBareId raw = true ∧ id = raw ∧ rest = [])

/-- Eleven characters of an id stand in the text with no other such character behind them. -/
def HoldsIdToken (text id : List Char) : Prop :=
  id.length = idLength ∧ (∀ c ∈ id, isBareIdChar c = true) ∧
    ∃ front rest, text = front ++ (id ++ rest) ∧ ∀ c ∈ rest.head?, isBareIdChar c = false

/-- An id against the token that begins with it: a token of another length is cut, or it is no id. -/
structure TakesEleven (id rest : List Char) : Prop where
  length : id.length = idLength
  whole_iff : ((∀ c ∈ id, isBareIdChar c = true) ∧ ∀ c ∈ rest.head?, isBareIdChar c = false) ↔
    (idToken (id ++ rest)).length = idLength
  cut : idLength < (idToken (id ++ rest)).length → id = (idToken (id ++ rest)).take idLength
  respelled : (idToken (id ++ rest)).length < idLength → 'ſ' ∈ id ∨ '\u212a' ∈ id

/-- Where the id of a query is read, and how it relates to the token there. -/
structure ReadsId (typed : String) : Prop where
  read_iff : ∀ id, (parse typed).videoId = some id ↔ ∃ rest, ReadsIdBefore (trimBlanks typed.toList) id.toList rest
  takesEleven : ∀ id rest, ReadsIdBefore (trimBlanks typed.toList) id rest → TakesEleven id rest
  holds : ∀ id rest, ReadsIdBefore (trimBlanks typed.toList) id rest →
    (idToken (id ++ rest)).length = idLength → HoldsIdToken (trimBlanks typed.toList) id

variable {id rest : List Char}

theorem isTaggedIdChar_iff {c : Char} :
    isTaggedIdChar c = true ↔ isBareIdChar c = true ∨ c = 'ſ' ∨ c = '\u212a' := by
  simp [isTaggedIdChar, or_assoc]

theorem takeWhile_eq_nil_iff_head? {p : Char → Bool} {text : List Char} :
    text.takeWhile p = [] ↔ ∀ c ∈ text.head?, p c = false := by
  cases text <;> simp

theorem takesEleven (hLength : id.length = idLength) (hChars : ∀ c ∈ id, isTaggedIdChar c = true) :
    TakesEleven id rest := by
  by_cases hBare : ∀ c ∈ id, isBareIdChar c = true
  · have hToken : idToken (id ++ rest) = id ++ idToken rest := List.takeWhile_append_of_pos hBare
    refine ⟨hLength, ?_, fun _ => ?_, fun hShort => ?_⟩
    · rw [and_iff_right hBare, ← takeWhile_eq_nil_iff_head?, hToken, List.length_append, hLength, Nat.add_eq_left,
        List.length_eq_zero_iff]
      rfl
    · rw [hToken, ← hLength, List.take_left]
    · rw [hToken, List.length_append, hLength] at hShort
      omega
  · have hPrefix : idToken id <+: id := List.takeWhile_prefix _
    have hShort : (idToken id).length < idLength := by
      rw [← hLength]
      refine hPrefix.length_le.lt_of_ne fun hSame => hBare ?_
      exact List.takeWhile_eq_self_iff.mp (hPrefix.eq_of_length hSame)
    have hToken : idToken (id ++ rest) = idToken id := by
      rw [idToken, List.takeWhile_append, if_neg (by rw [hLength]; exact hShort.ne)]
      rfl
    obtain ⟨c, hc, hOther⟩ : ∃ c ∈ id, isBareIdChar c ≠ true := by simpa using hBare
    refine ⟨hLength, ?_, fun hLong => ?_, fun _ => ?_⟩
    · rw [hToken]
      exact iff_of_false (fun hWhole => hBare hWhole.1) hShort.ne
    · rw [hToken] at hLong
      exact absurd hLong hShort.not_gt
    · rcases isTaggedIdChar_iff.mp (hChars c hc) with hId | rfl | rfl
      · exact absurd hId hOther
      · exact .inl hc
      · exact .inr hc

theorem videoId_eq_some_iff {typed x : String} : (parse typed).videoId = some x ↔
    ∃ rest, ReadsIdBefore (trimBlanks typed.toList) x.toList rest := by
  have hRead : (parse typed).videoId = some x ↔
      (Tag.id.find? (trimBlanks typed.toList)).or
        (if isBareId (trimBlanks typed.toList) then some (trimBlanks typed.toList) else none) = some x.toList := by
    rw [parse_eq_assemble, assemble, Option.map_eq_some_iff]
    simp [← String.toList_inj]
  rw [hRead, Option.or_eq_some_iff, Tag.find?_eq_some_iff, Tag.find?_eq_none_iff, Option.ite_none_right_eq_some,
    Option.some.injEq]
  simp only [ReadsIdBefore, exists_or]
  refine or_congr ?_ ?_
  · constructor
    · rintro ⟨before, after, hFirst, hValue⟩
      obtain ⟨⟨rest, hRest⟩, hLength, hChars⟩ := Tag.idValue?_eq_some_iff.mp hValue
      exact ⟨rest, before, after, hFirst, hRest.symm, hLength, hChars⟩
    · rintro ⟨rest, before, after, hFirst, hRest, hLength, hChars⟩
      exact ⟨before, after, hFirst, Tag.idValue?_eq_some_iff.mpr ⟨⟨rest, hRest.symm⟩, hLength, hChars⟩⟩
  · constructor
    · rintro ⟨hNone, hBare, hSame⟩
      exact ⟨[], hNone, hBare, hSame.symm, rfl⟩
    · rintro ⟨-, hNone, hBare, hSame, -⟩
      exact ⟨hNone, hBare, hSame.symm⟩

theorem ReadsIdBefore.takesEleven {raw : List Char} (h : ReadsIdBefore raw id rest) : TakesEleven id rest := by
  rcases h with ⟨-, -, -, -, hLength, hChars⟩ | ⟨-, hBare, rfl, rfl⟩
  · exact Query.takesEleven hLength hChars
  · obtain ⟨⟨hLength, hChars⟩, -⟩ := isBareId_iff.mp hBare
    exact Query.takesEleven hLength fun c hc => isTaggedIdChar_iff.mpr (.inl (List.all_eq_true.mp hChars c hc))

theorem ReadsIdBefore.exists_front {raw : List Char} (h : ReadsIdBefore raw id rest) :
    ∃ front, raw = front ++ (id ++ rest) := by
  rcases h with ⟨before, after, hFirst, hAfter, -⟩ | ⟨-, -, rfl, rfl⟩
  · obtain ⟨name, -, hRaw⟩ := hFirst.stands
    have hSplit := List.takeWhile_append_dropWhile (p := isBlank) (l := after)
    refine ⟨before ++ (name ++ after.takeWhile isBlank), ?_⟩
    rw [hRaw, ← hAfter, List.append_assoc, List.append_assoc, hSplit]
  · exact ⟨[], by simp⟩

/-- The id of every query is read from its first place, and it is the token there if and only if
this token has eleven characters. -/
theorem ids_are_read_up_to_eleven_characters (typed : String) : ReadsId typed where
  read_iff _ := videoId_eq_some_iff
  takesEleven _ _ hRead := hRead.takesEleven
  holds id rest hRead hToken := by
    obtain ⟨hChars, hEnd⟩ := hRead.takesEleven.whole_iff.mpr hToken
    obtain ⟨front, hText⟩ := hRead.exists_front
    exact ⟨hRead.takesEleven.length, hChars, front, rest, hText, hEnd⟩

/-- One id is cut out of a longer token, the other one ends with a character that no id holds. -/
theorem tagged_ids_are_no_tokens :
    (parse "id:dQw4w9WgXcQz").videoId = some "dQw4w9WgXcQ" ∧
      ¬ HoldsIdToken (trimBlanks "id:dQw4w9WgXcQz".toList) "dQw4w9WgXcQ".toList ∧
      (parse "id:dQw4w9WgXcſ").videoId = some "dQw4w9WgXcſ" ∧
      ¬ HoldsIdToken (trimBlanks "id:dQw4w9WgXcſ".toList) "dQw4w9WgXcſ".toList := by
  refine ⟨by decide +kernel, ?_, by decide +kernel, ?_⟩
  · rintro ⟨-, -, front, rest, hText, hEnd⟩
    have hPlaces : ∀ n ≤ (trimBlanks "id:dQw4w9WgXcQz".toList).length,
        "dQw4w9WgXcQ".toList <+: (trimBlanks "id:dQw4w9WgXcQz".toList).drop n →
          (((trimBlanks "id:dQw4w9WgXcQz".toList).drop n).drop idLength).head? = some 'z' := by decide +kernel
    have hNext := hPlaces front.length (by rw [hText, List.length_append]; omega)
      (by rw [hText, List.drop_left]; exact List.prefix_append _ _)
    rw [hText, List.drop_left, show idLength = "dQw4w9WgXcQ".toList.length from rfl, List.drop_left] at hNext
    exact absurd (hEnd 'z' hNext) (by decide)
  · rintro ⟨-, hChars, -⟩
    exact absurd (hChars 'ſ' (by decide)) (by decide)

end QuoteSearch.Query
