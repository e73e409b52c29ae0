import QuoteSearch.Proofs.Query.Tags

/-! # Queries in another letter case

A query with small ASCII letters is read like the query itself, but with small letters in its
parts. So queries that differ only in the case of such letters ask for the same parts.
-/

namespace QuoteSearch

open Text

namespace Query

/-- The query with small ASCII letters. -/
def lower (q : Query) : Query :=
  ⟨q.raw.toLower, q.videoId.map String.toLower, q.title.map String.toLower, q.words.map String.toLower,
    q.isTagged⟩

theorem contains_lowered {d : Char} (h : IsCaseless d) (text : List Char) :
    (lowered text).contains d = text.contains d := by
  rw [Bool.eq_iff_iff, List.contains_iff_mem, List.contains_iff_mem, mem_lowered_iff h]

theorem isTaggedIdChar_toLower (c : Char) : isTaggedIdChar c.toLower = isTaggedIdChar c :=
  apply_toLower (by decide) c

theorem idValue?_lowered (rest : List Char) : idValue? (lowered rest) = (idValue? rest).map lowered := by
  have hTake : ((lowered rest).dropWhile isBlank).take idLength =
      lowered ((rest.dropWhile isBlank).take idLength) := by
    rw [dropWhile_lowered isBlank_toLower, lowered, ← List.map_take, lowered]
  simp only [idValue?, hTake, length_lowered, all_lowered isTaggedIdChar_toLower]
  split
  · rfl
  · rfl

theorem freeValue?_lowered (rest : List Char) :
    freeValue? (lowered rest) = (freeValue? rest).map lowered := by
  have hValue : ((lowered rest).dropWhile isBlank).takeWhile (· != ';') =
      lowered ((rest.dropWhile isBlank).takeWhile (· != ';')) := by
    rw [dropWhile_lowered isBlank_toLower, takeWhile_lowered]
    exact apply_toLower (f := fun c => c != ';') (by decide)
  have hBlanks : (lowered rest).takeWhile isBlank = lowered (rest.takeWhile isBlank) :=
    takeWhile_lowered isBlank_toLower rest
  rw [freeValue?, freeValue?, hValue, hBlanks]
  cases (rest.dropWhile isBlank).takeWhile (· != ';') with
  | nil => cases hLast : (rest.takeWhile isBlank).getLast? <;> simp [lowered, hLast]
  | cons c value => rfl

theorem isBareId_lowered (raw : List Char) : isBareId (lowered raw) = isBareId raw := by
  have hChars : ∀ c : Char, isBareIdChar c.toLower = isBareIdChar c := apply_toLower (by decide)
  have hDigit : ∀ c : Char, (c.toLower.isDigit || c.toLower == '-' || c.toLower == '_') =
      (c.isDigit || c == '-' || c == '_') :=
    apply_toLower (f := fun c : Char => c.isDigit || c == '-' || c == '_') (by decide)
  rw [isBareId, length_lowered, all_lowered hChars, any_lowered hDigit, isBareId]

theorem splitOn_lowered {d : Char} (h : IsCaseless d) (list : List Char) :
    (lowered list).splitOn d = (list.splitOn d).map lowered := by
  induction list with
  | nil => rfl
  | cons c list ih =>
    have hSame : (c.toLower == d) = (c == d) := by
      rw [Bool.eq_iff_iff, beq_iff_eq, beq_iff_eq, toLower_eq_iff h]
    rw [lowered_cons, List.splitOn_cons_eq_if_modifyHead, List.splitOn_cons_eq_if_modifyHead, hSame, ih]
    split
    · rfl
    · cases list.splitOn d with
      | nil => rfl
      | cons first rest => rfl

theorem splitTerms_lowered (list : List Char) :
    splitTerms (lowered list) = (splitTerms list).map lowered := by
  rw [splitTerms, splitOn_lowered (by decide), List.map_map, splitTerms]
  induction list.splitOn ',' with
  | nil => rfl
  | cons item items ih =>
    rw [List.map_cons, List.map_cons, Function.comp_apply, trimBlanks_lowered, List.filter_cons,
      List.filter_cons, isEmpty_lowered]
    split
    · rw [ih, List.map_cons]
    · exact ih

end Query

namespace Tag

open Query

theorem value?_lowered (tag : Tag) (rest : List Char) :
    tag.value? (lowered rest) = (tag.value? rest).map lowered := by
  cases tag with
  | id => exact idValue?_lowered rest
  | title => exact freeValue?_lowered rest
  | word => exact freeValue?_lowered rest

theorem find?_lowered (tag : Tag) (text : List Char) :
    tag.find? (lowered text) = (tag.find? text).map lowered := by
  induction text with
  | nil => rfl
  | cons c rest ih =>
    have hDrop : (lowered (c :: rest)).drop tag.name.length = lowered ((c :: rest).drop tag.name.length) := by
      rw [lowered, ← List.map_drop, lowered]
    rw [lowered_cons, find?_cons, ← lowered_cons, beginsWith_lowered_right, hDrop, value?_lowered, ih,
      find?_cons]
    split
    · rw [Option.map_or]
    · rw [Option.none_or, Option.none_or]

end Tag

namespace Query

theorem assemble_lowered (raw : List Char) (found : Tag → Option (List Char)) :
    assemble (lowered raw) (fun tag => (found tag).map lowered) = (assemble raw found).lower := by
  have hId : ((found .id).map lowered).or (if isBareId (lowered raw) then some (lowered raw) else none) =
      ((found .id).or (if isBareId raw then some raw else none)).map lowered := by
    rw [Option.map_or, isBareId_lowered, apply_ite (Option.map lowered), Option.map_some, Option.map_none]
  have hTitle : (((found .title).map lowered).map trimBlanks).filter (fun t => !t.isEmpty) =
      (((found .title).map trimBlanks).filter fun t => !t.isEmpty).map lowered := by
    cases found .title with
    | none => rfl
    | some title =>
      simp only [Option.map_some, trimBlanks_lowered, Option.filter_some, isEmpty_lowered]
      split
      · rfl
      · rfl
  have hComma : (lowered raw).contains ',' = raw.contains ',' := contains_lowered (by decide) raw
  have hString : ∀ terms : List (List Char), (terms.map lowered).map String.ofList =
      (terms.map String.ofList).map String.toLower := by
    intro terms
    rw [List.map_map, List.map_map]
    exact List.map_congr_left fun term _ => ofList_lowered term
  have hOption : ∀ part : Option (List Char), (part.map lowered).map String.ofList =
      (part.map String.ofList).map String.toLower := by
    rintro (_ | part)
    · rfl
    · exact congrArg some (ofList_lowered part)
  simp only [assemble, hId, hTitle, hComma, Option.isSome_map, hOption, ofList_lowered, lower]
  congr 1
  cases found .word with
  | some list =>
    rw [← hString]
    exact congrArg _ (splitTerms_lowered list)
  | none =>
    rw [← hString, splitTerms_lowered]
    simp only [Option.map_none, apply_ite (List.map lowered), List.map_nil]

theorem parse_toLower (typed : String) : parse typed.toLower = (parse typed).lower := by
  rw [parse_eq_assemble, toList_toLower, trimBlanks_lowered, parse_eq_assemble, ← assemble_lowered]
  exact congrArg _ (funext fun tag => tag.find?_lowered _)

end Query

end QuoteSearch
