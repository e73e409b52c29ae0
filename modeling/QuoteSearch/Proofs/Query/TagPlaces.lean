import QuoteSearch.Proofs.Query.Tags

/-! # Where tags stand

A name is a tag at every place of a query where a value stands behind it. What is in front of the name
does not matter: the end of a longer word tags a query as well as a name that stands on its own.
-/

namespace QuoteSearch

open Text Query

namespace Tag

variable {tag : Tag} {text : List Char}

/-- The name stands in the text between two stretches of it, in any case of its letters. -/
def StandsBetween (tag : Tag) (text before after : List Char) : Prop :=
  ∃ name, lowered name = tag.name ∧ text = before ++ (name ++ after)

/-- A value of the tag stands where `rest` begins. -/
def HasValue : Tag → List Char → Prop
  | id, rest => ∃ value, value <+: rest.dropWhile isBlank ∧ value.length = idLength ∧
      ∀ c ∈ value, isTaggedIdChar c = true
  | title, rest | word, rest => ∃ c ∈ rest.head?, c ≠ ';'

theorem idValue?_eq_some_iff {rest value : List Char} : idValue? rest = some value ↔
    value <+: rest.dropWhile isBlank ∧ value.length = idLength ∧ ∀ c ∈ value, isTaggedIdChar c = true := by
  simp only [idValue?, Option.ite_none_right_eq_some, Bool.and_eq_true, decide_eq_true_eq, List.all_eq_true,
    Option.some.injEq]
  constructor
  · rintro ⟨⟨hLength, hChars⟩, rfl⟩
    exact ⟨List.take_prefix _ _, hLength, hChars⟩
  · rintro ⟨hPrefix, hLength, hChars⟩
    rw [← hLength, ← List.prefix_iff_eq_take.mp hPrefix]
    exact ⟨⟨rfl, hChars⟩, rfl⟩

theorem isSome_idValue?_iff {rest : List Char} : (idValue? rest).isSome = true ↔ id.HasValue rest := by
  rw [Option.isSome_iff_exists]
  exact exists_congr fun value => idValue?_eq_some_iff

theorem isSome_freeValue?_iff {rest : List Char} :
    (freeValue? rest).isSome = true ↔ ∃ c ∈ rest.head?, c ≠ ';' := by
  cases rest with
  | nil => simp [freeValue?]
  | cons c rest =>
    have hSemicolon : isBlank ';' = false := by decide
    simp only [List.head?_cons, Option.mem_some_iff, exists_eq_left']
    by_cases hEnd : c = ';'
    · subst hEnd
      simp [freeValue?, hSemicolon]
    · by_cases hBlank : isBlank c = true
      · simp only [freeValue?, List.takeWhile_cons_of_pos hBlank]
        split <;> simp [hEnd]
      · simp [freeValue?, List.dropWhile_cons_of_neg hBlank, hEnd]

theorem isSome_value?_iff {rest : List Char} : (tag.value? rest).isSome = true ↔ tag.HasValue rest := by
  cases tag with
  | id => exact isSome_idValue?_iff
  | title => exact isSome_freeValue?_iff
  | word => exact isSome_freeValue?_iff

theorem value?_eq_none_iff {rest : List Char} : tag.value? rest = none ↔ ¬ tag.HasValue rest := by
  rw [← isSome_value?_iff, Bool.not_eq_true, Option.isSome_eq_false_iff, Option.isNone_iff_eq_none]

theorem standsBetween_nil_iff {after : List Char} :
    tag.StandsBetween text [] after ↔ beginsWith tag.name text = true ∧ after = text.drop tag.name.length := by
  rw [beginsWith_name_iff]
  constructor
  · rintro ⟨name, hName, rfl⟩
    rw [← hName, List.nil_append, lowered_append, length_lowered, List.drop_left]
    exact ⟨List.prefix_append _ _, rfl⟩
  · rintro ⟨hPrefix, rfl⟩
    refine ⟨text.take tag.name.length, ?_, by simp⟩
    rw [lowered, List.map_take]
    exact (List.prefix_iff_eq_take.mp hPrefix).symm

theorem not_standsBetween_nil {before after : List Char} : ¬ tag.StandsBetween [] before after := by
  rintro ⟨name, hName, hText⟩
  obtain ⟨-, hText⟩ := List.append_eq_nil_iff.mp hText.symm
  obtain ⟨rfl, -⟩ := List.append_eq_nil_iff.mp hText
  exact tag.name_ne_nil hName.symm

theorem standsBetween_cons_cons {c d : Char} {before after : List Char} :
    tag.StandsBetween (c :: text) (d :: before) after ↔ c = d ∧ tag.StandsBetween text before after := by
  simp only [StandsBetween, List.cons_append, List.cons_eq_cons]
  constructor
  · rintro ⟨name, hName, hFirst, hText⟩
    exact ⟨hFirst, name, hName, hText⟩
  · rintro ⟨hFirst, name, hName, hText⟩
    exact ⟨name, hName, hFirst, hText⟩

theorem valueHere_eq_some_iff {value : List Char} :
    (if beginsWith tag.name text then tag.value? (text.drop tag.name.length) else none) = some value ↔
      ∃ after, tag.StandsBetween text [] after ∧ tag.value? after = some value := by
  rw [Option.ite_none_right_eq_some]
  constructor
  · rintro ⟨hBegins, hValue⟩
    exact ⟨_, standsBetween_nil_iff.mpr ⟨hBegins, rfl⟩, hValue⟩
  · rintro ⟨after, hStands, hValue⟩
    obtain ⟨hBegins, rfl⟩ := standsBetween_nil_iff.mp hStands
    exact ⟨hBegins, hValue⟩

theorem valueHere_eq_none_iff :
    (if beginsWith tag.name text then tag.value? (text.drop tag.name.length) else none) = none ↔
      ∀ after, tag.StandsBetween text [] after → ¬ tag.HasValue after := by
  simp only [Option.eq_none_iff_forall_ne_some, ne_eq, valueHere_eq_some_iff, ← value?_eq_none_iff, not_exists,
    not_and]
  exact forall_comm.trans (forall_congr' fun after => forall_comm)

/-- A tag finds nothing exactly if its name stands nowhere with a value behind it. -/
theorem find?_eq_none_iff :
    tag.find? text = none ↔ ∀ before after, tag.StandsBetween text before after → ¬ tag.HasValue after := by
  induction text with
  | nil => exact iff_of_true rfl fun before after hStands => absurd hStands not_standsBetween_nil
  | cons c rest ih =>
    rw [find?_cons, Option.or_eq_none_iff, valueHere_eq_none_iff, ih]
    constructor
    · rintro ⟨hHere, hLater⟩ before after hStands
      cases before with
      | nil => exact hHere after hStands
      | cons d before => exact hLater before after (standsBetween_cons_cons.mp hStands).2
    · intro hNowhere
      exact ⟨hNowhere [], fun before after hStands =>
        hNowhere (c :: before) after (standsBetween_cons_cons.mpr ⟨rfl, hStands⟩)⟩

/-- The first place of the name with a value behind it. -/
structure FirstBetween (tag : Tag) (text before after : List Char) : Prop where
  stands : tag.StandsBetween text before after
  hasValue : tag.HasValue after
  first : ∀ earlier later, tag.StandsBetween text earlier later → earlier.length < before.length →
    ¬ tag.HasValue later

theorem find?_eq_some_iff {value : List Char} : tag.find? text = some value ↔
    ∃ before after, tag.FirstBetween text before after ∧ tag.value? after = some value := by
  have hasValue : ∀ {after found}, tag.value? after = some found → tag.HasValue after :=
    fun hFound => isSome_value?_iff.mp (Option.isSome_of_eq_some hFound)
  induction text with
  | nil =>
    refine iff_of_false (Option.some_ne_none value ∘ Eq.symm) ?_
    rintro ⟨before, after, hFirst, -⟩
    exact not_standsBetween_nil hFirst.stands
  | cons c rest ih =>
    rw [find?_cons]
    cases hHere : (if beginsWith tag.name (c :: rest) then
        tag.value? ((c :: rest).drop tag.name.length) else none) with
    | some found =>
      obtain ⟨after, hStands, hFound⟩ := valueHere_eq_some_iff.mp hHere
      rw [Option.some_or]
      constructor
      · intro hValue
        have hFirst : tag.FirstBetween (c :: rest) [] after :=
          ⟨hStands, hasValue hFound, fun _ _ _ hEarlier => absurd hEarlier (Nat.not_lt_zero _)⟩
        exact ⟨[], after, hFirst, hFound.trans hValue⟩
      · rintro ⟨before, later, hFirst, hValue⟩
        cases before with
        | nil => exact hHere.symm.trans (valueHere_eq_some_iff.mpr ⟨later, hFirst.stands, hValue⟩)
        | cons d before => exact absurd (hasValue hFound) (hFirst.first [] after hStands (Nat.succ_pos _))
    | none =>
      have hNotHere := valueHere_eq_none_iff.mp hHere
      rw [Option.none_or]
      refine ih.trans ⟨?_, ?_⟩
      · rintro ⟨before, after, hFirst, hValue⟩
        refine ⟨c :: before, after, ⟨standsBetween_cons_cons.mpr ⟨rfl, hFirst.stands⟩, hFirst.hasValue, ?_⟩, hValue⟩
        intro earlier later hStands hEarlier
        cases earlier with
        | nil => exact hNotHere later hStands
        | cons e earlier =>
          exact hFirst.first earlier later (standsBetween_cons_cons.mp hStands).2 (Nat.lt_of_succ_lt_succ hEarlier)
      · rintro ⟨before, after, hFirst, hValue⟩
        cases before with
        | nil => exact absurd hFirst.hasValue (hNotHere after hFirst.stands)
        | cons d before =>
          refine ⟨before, after, ⟨(standsBetween_cons_cons.mp hFirst.stands).2, hFirst.hasValue, ?_⟩, hValue⟩
          exact fun earlier later hStands hEarlier =>
            hFirst.first (c :: earlier) later (standsBetween_cons_cons.mpr ⟨rfl, hStands⟩) (Nat.succ_lt_succ hEarlier)

end Tag

namespace Query

def NoTagHasValue (text : List Char) : Prop :=
  ∀ (tag : Tag) before after, tag.StandsBetween text before after → ¬ tag.HasValue after

theorem find?_eq_none_of_noTagHasValue {text : List Char} :
    (fun tag : Tag => tag.find? text) = (fun _ => none) ↔ NoTagHasValue text := by
  rw [funext_iff]
  exact forall_congr' fun tag => Tag.find?_eq_none_iff

theorem isTagged_assemble {raw : List Char} {found : Tag → Option (List Char)} {tag : Tag}
    (h : found tag ≠ none) : (assemble raw found).isTagged = true := by
  simp only [assemble, Bool.or_eq_true, Option.isSome_or]
  cases tag with
  | id => exact .inl (.inl (.inl (.inl (Option.isSome_iff_ne_none.mpr h))))
  | title => exact .inl (.inl (.inr (Option.isSome_iff_ne_none.mpr h)))
  | word => exact .inl (.inr (Option.isSome_iff_ne_none.mpr h))

/-- How a query is read by the places at which tag names stand in it. -/
structure ReadsTagsAnywhere (typed : String) : Prop where
  plain : NoTagHasValue typed.toList →
    parse typed = ⟨typed, none, none, [], false⟩ ∧ (parse typed).contentTerms = [typed]
  tagged : ∀ (tag : Tag) before after, tag.StandsBetween typed.toList before after → tag.HasValue after →
    (parse typed).isTagged = true

/-- A query that is no id and no list is plain exactly if no tag name has a value behind it, whatever
stands in front of the names. -/
theorem tags_count_wherever_they_stand {typed : String} (hTrimmed : trim typed = typed)
    (hComma : ',' ∉ typed.toList) (hBare : isBareId typed.toList = false) : ReadsTagsAnywhere typed := by
  have hRaw : trimBlanks typed.toList = typed.toList := by rw [← toList_trim, hTrimmed]
  refine ⟨fun hNone => ?_, fun tag before after hStands hValue => ?_⟩
  · have hParse : parse typed = ⟨typed, none, none, [], false⟩ := by
      rw [parse_eq_assemble, hRaw, find?_eq_none_of_noTagHasValue.mpr hNone]
      simp [assemble, hBare, hComma]
    rw [hParse]
    exact ⟨rfl, rfl⟩
  · have hFound : tag.find? typed.toList ≠ none := fun hNone =>
      Tag.find?_eq_none_iff.mp hNone before after hStands hValue
    rw [parse_eq_assemble, hRaw]
    exact isTagged_assemble hFound

theorem sample_tags_count_wherever_they_stand :
    ReadsTagsAnywhere "android: late; subtitle:" ∧ (parse "android: late; subtitle:").isTagged = false :=
  ⟨tags_count_wherever_they_stand (by decide +kernel) (by decide +kernel) (by decide +kernel), by decide +kernel⟩

/-- The only tag name in this query is the end of a longer word, and yet it tags the query. -/
theorem end_of_word_tags_query :
    trim "password: x" = "password: x" ∧ ',' ∉ "password: x".toList ∧ isBareId "password: x".toList = false ∧
      (∀ (tag : Tag) before after, tag.StandsBetween "password: x".toList before after →
        ∃ c ∈ before.getLast?, isAsciiAlnum c = true) ∧
      parse "password: x" = ⟨"password: x", none, none, ["x"], true⟩ := by
  refine ⟨by decide +kernel, by decide +kernel, by decide +kernel, fun tag before after hStands => ?_,
    by decide +kernel⟩
  have hPlaces : ∀ n ≤ "password: x".toList.length, ∀ tag ∈ [Tag.id, .title, .word],
      beginsWith tag.name ("password: x".toList.drop n) = true →
        ("password: x".toList.take n).getLast?.any isAsciiAlnum = true := by decide +kernel
  obtain ⟨name, hName, hText⟩ := hStands
  have hLength : before.length ≤ "password: x".toList.length := by
    rw [hText, List.length_append]
    omega
  have hBegins : beginsWith tag.name ("password: x".toList.drop before.length) = true := by
    rw [hText, List.drop_left, ← hName, beginsWith_lowered_left]
    exact beginsWith_append name after
  have hTag : tag ∈ [Tag.id, .title, .word] := by cases tag <;> decide
  have hFront := hPlaces before.length hLength tag hTag hBegins
  rwa [hText, List.take_left, Option.any_eq_true] at hFront

end Query

end QuoteSearch
