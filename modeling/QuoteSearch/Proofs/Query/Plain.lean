import QuoteSearch.Proofs.Query.Written

/-! # Plain queries under a tag

A plain text without a semicolon can follow `title:` or `word:` and is the value of that tag as a
whole. A name of a tag may stand in it, but with no value, and putting another tag in front gives
it none.
-/

namespace QuoteSearch.Query

open Text

/-- No tag has a value in the text, and it is no list. -/
structure IsPlainTerm (term : List Char) : Prop where
  trimmed : trimBlanks term = term ∧ term ≠ []
  noSemicolon : ';' ∉ term
  noComma : ',' ∉ term
  noValue : ∀ tag : Tag, tag.find? term = none
  noBareId : isBareId term = false

variable {typed : String}

theorem isPlainTerm_of_not_isTagged (hTrimmed : trim typed = typed) (hNonempty : typed ≠ "")
    (hSemicolon : ';' ∉ typed.toList) (hPlain : (parse typed).isTagged = false) :
    IsPlainTerm typed.toList := by
  have hRaw : trimBlanks typed.toList = typed.toList := by rw [← toList_trim, hTrimmed]
  simp only [parse_eq_assemble, assemble, hRaw, Bool.or_eq_false_iff, Option.isSome_eq_false_iff,
    Option.isNone_iff_eq_none, Option.or_eq_none_iff] at hPlain
  obtain ⟨⟨⟨⟨hId, hBare⟩, hTitle⟩, hWord⟩, hComma⟩ := hPlain
  have hTerm : typed.toList ≠ [] := by rwa [ne_eq, String.toList_eq_nil_iff]
  refine ⟨⟨hRaw, hTerm⟩, hSemicolon, ?_, ?_, ?_⟩
  · simpa using hComma
  · intro tag
    cases tag with
    | id => exact hId
    | title => exact hTitle
    | word => exact hWord
  · simpa using hBare

theorem parse_plain (h : IsPlainTerm typed.toList) : parse typed = ⟨typed, none, none, [], false⟩ := by
  rw [parse_eq_assemble, h.trimmed.1, funext h.noValue]
  simp [assemble, h.noBareId, h.noComma]

theorem find?_write_plain {term : List Char} (h : IsPlainTerm term) {tag : Tag} (hFree : tag ≠ .id)
    (other : Tag) : other.find? (tag.write tag.name term) = if other = tag then some term else none := by
  have hValue : freeValue? (' ' :: term) = some term := freeValue?_space_cons h.trimmed h.noSemicolon
  by_cases hSame : other = tag
  · subst hSame
    rw [if_pos rfl]
    cases other with
    | id => exact absurd rfl hFree
    | title => exact Tag.find?_of_name (Tag.lowered_name _) hValue
    | word => exact Tag.find?_of_name (Tag.lowered_name _) hValue
  · have hName : ¬ other.Mentions tag.name := Tag.not_mentions_name hSame tag.lowered_name
    rw [if_neg hSame, ← h.noValue other]
    cases tag with
    | id => exact absurd rfl hFree
    | title => exact Tag.find?_append_separator hName (by decide) term
    | word => exact Tag.find?_append_separator hName (by decide) term

theorem trim_write_plain (h : IsPlainTerm typed.toList) {tag : Tag} {text : String}
    (hText : text.toList = tag.write tag.name typed.toList) : trim text = text := by
  rw [← String.toList_inj, toList_trim, hText]
  exact Tag.trimmed_write h.trimmed tag.lowered_name

/-- The query that is read from a plain term after a tag. -/
theorem parse_write_plain (h : IsPlainTerm typed.toList) {tag : Tag} (hFree : tag ≠ .id) {text : String}
    (hText : text.toList = tag.write tag.name typed.toList) :
    parse text = ⟨text, none, if tag = .title then some typed else none,
      if tag = .word then [typed] else [], true⟩ := by
  have hTrimmed : trimBlanks text.toList = text.toList := by
    rw [← toList_trim, trim_write_plain h hText]
  have hBare : isBareId text.toList = false :=
    isBareId_of_colon_mem (hText ▸ Tag.colon_mem_write tag.lowered_name _)
  have hTerms := splitTerms_of_trimmed h.noComma h.trimmed.1 h.trimmed.2
  rw [parse_eq_assemble, hTrimmed, hText, funext (find?_write_plain h hFree), ← hText]
  cases tag with
  | id => exact absurd rfl hFree
  | title => simp [assemble, hBare, h.trimmed]
  | word => simp [assemble, hBare, hTerms]

theorem toList_titled (typed : String) :
    ("title: " ++ typed).toList = Tag.title.write Tag.title.name typed.toList := by
  rw [String.toList_append]
  rfl

theorem toList_worded (typed : String) :
    ("word: " ++ typed).toList = Tag.word.write Tag.word.name typed.toList := by
  rw [String.toList_append]
  rfl

end QuoteSearch.Query
