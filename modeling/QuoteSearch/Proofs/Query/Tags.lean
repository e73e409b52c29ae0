import QuoteSearch.Proofs.Text.LetterCase
import QuoteSearch.Query
import Mathlib.Data.List.Infix

/-! # Tags

The three tags of a query differ in their names and in how a value is read. A name holds no
separator, so it is never found across one, and no value goes beyond a semicolon: what a tag finds
in a text it finds in one of the stretches between semicolons. None of this depends on the case of
ASCII letters.
-/

namespace QuoteSearch

open Text

inductive Tag where
  | id
  | title
  | word
deriving DecidableEq

namespace Tag

open Query

def name : Tag → List Char
  | id => "id:".toList
  | title => "title:".toList
  | word => "word:".toList

def value? : Tag → List Char → Option (List Char)
  | id => idValue?
  | title | word => freeValue?

def find? (tag : Tag) (text : List Char) : Option (List Char) := tagged? tag.name tag.value? text

/-- The name stands somewhere in the text, in any case of its letters. -/
def Mentions (tag : Tag) (text : List Char) : Prop := tag.name <:+: lowered text

instance (tag : Tag) (text : List Char) : Decidable (tag.Mentions text) :=
  inferInstanceAs (Decidable (tag.name <:+: lowered text))

/-- Characters that stand between parts of a query. -/
def separators : List Char := [';', ',', ' ']

variable {tag : Tag} {text : List Char}

theorem name_ne_nil (tag : Tag) : tag.name ≠ [] := by
  cases tag <;> decide

theorem lowered_name (tag : Tag) : lowered tag.name = tag.name := by
  cases tag <;> decide

theorem not_mentions_nil (tag : Tag) : ¬ tag.Mentions [] :=
  fun h => tag.name_ne_nil (List.infix_nil.mp h)

theorem isPlain_of_mem_name : ∀ t ∈ tag.name, IsPlain t := by
  have hSpellings : tag.name.all fun t => (spellings t.toNat).all fun m => (Char.ofNat m).toLower == t := by
    cases tag <;> decide +kernel
  simp only [List.all_eq_true, beq_iff_eq] at hSpellings
  exact fun t ht => isPlain_of_spellings (hSpellings t ht)

theorem beginsWith_name_iff : beginsWith tag.name text = true ↔ tag.name <+: lowered text :=
  beginsWith_iff_prefix isPlain_of_mem_name

theorem not_sameLetter_separator {sep : Char} (hSep : sep ∈ separators) :
    ∀ t ∈ tag.name, sameLetter t sep = false := by
  have hNames : separators.all fun sep => tag.name.all fun t => !sameLetter t sep := by
    cases tag <;> decide +kernel
  simp only [List.all_eq_true, Bool.not_eq_true'] at hNames
  exact hNames sep hSep

theorem beginsWith_append_separator {sep : Char} {term : List Char}
    (hSep : ∀ t ∈ term, sameLetter t sep = false) (a b : List Char) :
    beginsWith term (a ++ sep :: b) = beginsWith term a := by
  induction term generalizing a with
  | nil => cases a <;> rfl
  | cons t term ih =>
    obtain ⟨hFirst, hRest⟩ := List.forall_mem_cons.mp hSep
    cases a with
    | nil => rw [List.nil_append, beginsWith, beginsWith, hFirst, Bool.false_and]
    | cons c a => rw [List.cons_append, beginsWith, beginsWith, ih hRest]

theorem not_beginsWith_of_not_mentions (h : ¬ tag.Mentions text) : beginsWith tag.name text = false := by
  rw [← Bool.not_eq_true, beginsWith_name_iff]
  exact fun hPrefix => h hPrefix.isInfix

theorem not_mentions_of_cons {c : Char} (h : ¬ tag.Mentions (c :: text)) : ¬ tag.Mentions text :=
  fun hRest => h (hRest.trans (List.suffix_cons _ _).isInfix)

theorem find?_cons (tag : Tag) (c : Char) (rest : List Char) :
    tag.find? (c :: rest) = (if beginsWith tag.name (c :: rest) then
      tag.value? ((c :: rest).drop tag.name.length) else none).or (tag.find? rest) := rfl

theorem find?_eq_none (h : ¬ tag.Mentions text) : tag.find? text = none := by
  induction text with
  | nil => rfl
  | cons c rest ih =>
    rw [find?_cons, not_beginsWith_of_not_mentions h, ih (not_mentions_of_cons h)]
    rfl

theorem find?_append_separator {a : List Char} (h : ¬ tag.Mentions a) {sep : Char}
    (hSep : sep ∈ separators) (b : List Char) : tag.find? (a ++ sep :: b) = tag.find? b := by
  have hLetters : ∀ t ∈ tag.name, sameLetter t sep = false := not_sameLetter_separator hSep
  have hName := beginsWith_append_separator hLetters
  induction a with
  | nil =>
    rw [List.nil_append, find?_cons, ← List.nil_append (sep :: b), hName,
      not_beginsWith_of_not_mentions h]
    rfl
  | cons c a ih =>
    rw [List.cons_append, find?_cons, ← List.cons_append, hName, not_beginsWith_of_not_mentions h,
      ih (not_mentions_of_cons h)]
    rfl

/-- A front in which no character could begin the name does not matter. -/
theorem find?_append_of_head {front : List Char} (h : ∀ t ∈ tag.name.head?, ∀ c ∈ front, sameLetter t c = false)
    (rest : List Char) : tag.find? (front ++ rest) = tag.find? rest := by
  induction front with
  | nil => rfl
  | cons c front ih =>
    obtain ⟨t, name, hName⟩ := List.exists_cons_of_ne_nil tag.name_ne_nil
    rw [hName] at h ih
    have hFirst : beginsWith tag.name (c :: (front ++ rest)) = false := by
      rw [hName, beginsWith, h t rfl c List.mem_cons_self, Bool.false_and]
    rw [List.cons_append, find?_cons, hFirst, if_neg Bool.false_ne_true, Option.none_or]
    exact ih fun t ht d hd => h t ht d (List.mem_cons_of_mem c hd)

theorem idValue?_append_semicolon (a b : List Char) : idValue? (a ++ ';' :: b) = idValue? a := by
  have hNoId : isTaggedIdChar ';' = false := by decide
  simp only [idValue?, List.dropWhile_append]
  split
  · rename_i hBlank
    have hFirst : (';' :: b).dropWhile isBlank = ';' :: b := List.dropWhile_cons_of_neg (by decide)
    rw [List.isEmpty_iff.mp hBlank, hFirst]
    simp [idLength, hNoId]
  · -- Either eleven characters stand in front of the semicolon, or it is one of the eleven.
    by_cases hLong : idLength ≤ (a.dropWhile isBlank).length
    · rw [List.take_append_of_le_length hLong]
    · have hMem : ';' ∈ (a.dropWhile isBlank ++ ';' :: b).take idLength := by
        obtain ⟨k, hk⟩ := Nat.exists_eq_add_of_lt (Nat.lt_of_not_le hLong)
        rw [hk, Nat.add_assoc, List.take_length_add_append, List.take_succ_cons]
        exact List.mem_append_right _ List.mem_cons_self
      have hAll : ((a.dropWhile isBlank ++ ';' :: b).take idLength).all isTaggedIdChar = false :=
        List.all_eq_false.mpr ⟨';', hMem, by simp [hNoId]⟩
      have hShort : ¬ min idLength (a.dropWhile isBlank).length = idLength := by omega
      simp [hAll, hShort]

theorem freeValue?_append_semicolon (a b : List Char) : freeValue? (a ++ ';' :: b) = freeValue? a := by
  have hFirst : (';' :: b).dropWhile isBlank = ';' :: b := List.dropWhile_cons_of_neg (by decide)
  have hBlanks : (a ++ ';' :: b).takeWhile isBlank = a.takeWhile isBlank := by
    rw [List.takeWhile_append]
    split
    · rename_i hAll
      rw [List.takeWhile_cons_of_neg (by decide), List.append_nil]
      exact (List.takeWhile_prefix isBlank).eq_of_length hAll |>.symm
    · rfl
  have hValue : ((a ++ ';' :: b).dropWhile isBlank).takeWhile (· != ';') =
      (a.dropWhile isBlank).takeWhile (· != ';') := by
    rw [List.dropWhile_append]
    split
    · rename_i hBlank
      rw [List.isEmpty_iff.mp hBlank, hFirst]
      rfl
    · rw [List.takeWhile_append]
      split
      · rename_i hAll
        rw [List.takeWhile_cons_of_neg (by decide), List.append_nil]
        exact (List.takeWhile_prefix _).eq_of_length hAll |>.symm
      · rfl
  rw [freeValue?, hValue, hBlanks, freeValue?]

theorem value?_append_semicolon (tag : Tag) (a b : List Char) :
    tag.value? (a ++ ';' :: b) = tag.value? a := by
  cases tag with
  | id => exact idValue?_append_semicolon a b
  | title => exact freeValue?_append_semicolon a b
  | word => exact freeValue?_append_semicolon a b

theorem find?_append_semicolon (tag : Tag) (a b : List Char) :
    tag.find? (a ++ ';' :: b) = (tag.find? a).or (tag.find? b) := by
  have hSep : ';' ∈ separators := by decide
  induction a with
  | nil => exact find?_append_separator tag.not_mentions_nil hSep b
  | cons c a ih =>
    have hLetters : ∀ t ∈ tag.name, sameLetter t ';' = false := not_sameLetter_separator hSep
    have hName := beginsWith_append_separator hLetters (c :: a) b
    rw [List.cons_append, find?_cons, ih, find?_cons, Option.or_assoc, ← List.cons_append, hName]
    split
    · rename_i hBegins
      rw [List.drop_append_of_le_length (length_le_of_beginsWith hBegins), value?_append_semicolon]
    · rfl

/-- What a tag finds in stretches that are joined by semicolons it finds in one of them. -/
theorem find?_intercalate (tag : Tag) (texts : List (List Char)) :
    tag.find? ([';', ' '].intercalate texts) = texts.findSome? tag.find? := by
  induction texts with
  | nil => rfl
  | cons first rest ih =>
    cases rest with
    | nil => simp [List.intercalate]
    | cons second rest =>
      have hBlank : tag.find? (' ' :: [';', ' '].intercalate (second :: rest)) =
          tag.find? ([';', ' '].intercalate (second :: rest)) :=
        find?_append_separator tag.not_mentions_nil (by decide) _
      rw [List.intercalate_cons_cons, List.append_assoc, List.cons_append, List.singleton_append,
        find?_append_semicolon, hBlank, ih]
      change _ = ([first] ++ second :: rest).findSome? tag.find?
      rw [List.findSome?_append, List.findSome?_singleton]

theorem find?_of_name {spelled value rest : List Char} (hName : lowered spelled = tag.name)
    (hValue : tag.value? rest = some value) : tag.find? (spelled ++ rest) = some value := by
  have hBegins : beginsWith tag.name (spelled ++ rest) = true := by
    rw [← hName, beginsWith_lowered_left]
    exact beginsWith_append spelled rest
  have hLength : tag.name.length = spelled.length := hName ▸ length_lowered spelled
  cases spelled with
  | nil => exact absurd hName.symm tag.name_ne_nil
  | cons c spelled =>
    rw [List.cons_append, find?_cons, ← List.cons_append, hBegins, if_pos rfl, hLength,
      List.drop_left, hValue, Option.some_or]

theorem mentions_append_separator {sep : Char} (hSep : sep ∈ separators) {a b : List Char} :
    tag.Mentions (a ++ sep :: b) ↔ tag.Mentions a ∨ tag.Mentions b := by
  have hAbsent : sep.toLower ∉ tag.name := by
    have hNames : separators.all fun sep => !tag.name.contains sep.toLower := by
      cases tag <;> decide
    simpa using List.all_eq_true.mp hNames sep hSep
  rw [Mentions, Mentions, Mentions, lowered_append, lowered_cons, List.infix_append_iff]
  constructor
  · rintro (h | h | ⟨front, back, hName, hFront, hBack⟩)
    · exact .inl h
    · rcases List.infix_cons_iff.mp h with hPrefix | h
      · cases hEq : tag.name with
        | nil => exact absurd hEq tag.name_ne_nil
        | cons t rest =>
          rw [hEq, List.cons_prefix_cons] at hPrefix
          exact absurd (hPrefix.1 ▸ hEq ▸ List.mem_cons_self) hAbsent
      · exact .inr h
    · cases back with
      | nil =>
        rw [hName, List.append_nil]
        exact .inl hFront.isInfix
      | cons t back =>
        have hFirst := (List.cons_prefix_cons.mp hBack).1
        exact absurd (hName ▸ List.mem_append_right _ (hFirst ▸ List.mem_cons_self)) hAbsent
  · rintro (h | h)
    · exact .inl h
    · exact .inr (.inl (h.trans (List.suffix_cons _ _).isInfix))

/-- Each name ends with a colon. -/
theorem mentions_of_append {a b : List Char} (hColon : ':' ∉ b) (h : tag.Mentions (a ++ b)) :
    tag.Mentions a := by
  have hLast : ∃ front, tag.name = front ++ [':'] := by
    cases tag
    · exact ⟨"id".toList, rfl⟩
    · exact ⟨"title".toList, rfl⟩
    · exact ⟨"word".toList, rfl⟩
  have hLower : ':' ∉ lowered b := (mem_lowered_iff (by decide)).not.mpr hColon
  obtain ⟨start, hStart⟩ := hLast
  rw [Mentions, lowered_append, List.infix_append_iff] at h
  rcases h with h | h | ⟨front, back, hName, hFront, hBack⟩
  · exact h
  · have hMem : ':' ∈ tag.name := hStart ▸ List.mem_append_right _ List.mem_cons_self
    exact absurd (h.subset hMem) hLower
  · rcases List.eq_nil_or_concat back with rfl | ⟨back, c, rfl⟩
    · rw [List.append_nil] at hName
      rw [Mentions, hName]
      exact hFront.isInfix
    · rw [hStart, List.concat_eq_append, ← List.append_assoc] at hName
      have hLastEq : ':' = c := List.singleton_inj.mp (List.append_inj' hName rfl).2
      have hMem : c ∈ back.concat c := by simp
      exact absurd (hBack.subset (hLastEq ▸ hMem)) hLower

theorem not_mentions_name {other : Tag} (h : other ≠ tag) {spelled : List Char}
    (hName : lowered spelled = tag.name) : ¬ other.Mentions spelled := by
  rw [Mentions, hName]
  revert h
  cases other <;> cases tag <;> decide

end Tag

namespace Query

/-- The query that is read from a text, given what each tag finds in it. -/
def assemble (raw : List Char) (found : Tag → Option (List Char)) : Query :=
  let id := (found .id).or (if isBareId raw then some raw else none)
  let explicit := id.isSome || (found .title).isSome || (found .word).isSome
  let words := match found .word with
    | some list => splitTerms list
    | none => if !explicit && raw.contains ',' then splitTerms raw else []
  { raw := String.ofList raw
    videoId := id.map String.ofList
    title := (((found .title).map trimBlanks).filter fun t => !t.isEmpty).map String.ofList
    words := words.map String.ofList
    isTagged := explicit || raw.contains ',' }

theorem parse_eq_assemble (typed : String) :
    parse typed = assemble (trimBlanks typed.toList) fun tag => tag.find? (trimBlanks typed.toList) := rfl

end Query

end QuoteSearch
