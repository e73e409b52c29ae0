import QuoteSearch.Proofs.Query.Filters
import QuoteSearch.Proofs.Query.Tags

/-! # What parsing leaves

Whatever is typed, what is left of it is free of blanks at the ends and of the characters that separate
its parts, and no filter looks for nothing. The filters of a tagged query are the same for videos and
quotes, and those on quotes look for the terms that are highlighted.
-/

namespace QuoteSearch

open Text

/-- The term that a filter looks for. -/
def Filter.term? : Filter → Option String
  | .videoId _ => none
  | .titleWord term | .contentWord term => some term

namespace Query

structure IsNormal (typed : String) (q : Query) : Prop where
  raw : q.raw = trim typed
  words : ∀ word ∈ q.words, word ≠ "" ∧ trim word = word ∧ ',' ∉ word.toList
  taggedWords : Tag.word.find? q.raw.toList ≠ none → ∀ word ∈ q.words, ';' ∉ word.toList
  title : ∀ title ∈ q.title,
    title ≠ "" ∧ trim title = title ∧ ';' ∉ title.toList ∧ title.toList <:+: typed.toList
  plain : q.isTagged = false →
    ',' ∉ q.raw.toList ∧ q.videoId = none ∧ q.title = none ∧ q.words = [] ∧ q.contentTerms = [q.raw]
  terms : trim typed ≠ "" → ∀ term ∈ q.contentTerms, trim term ≠ ""

structure HasUsableFilters (typed : String) (q : Query) : Prop where
  terms : trim typed ≠ "" → ∀ f ∈ q.videoFilters ++ q.quoteFilters, ∀ term ∈ f.term?, trim term ≠ ""
  shared : q.isTagged = true → q.videoFilters = q.quoteFilters
  empty : q.videoFilters = [] ↔ q.quoteFilters = []
  highlighted : Filter.ofKind .content q.quoteFilters = q.highlightTerms.map .contentWord
  patterns : (Filter.ofKind .content q.quoteFilters).map Filter.value =
    q.highlightTerms.map fun term => (WordPattern.word term).text

variable {list item rest value : List Char}

theorem mem_splitOn {separator : Char} (h : item ∈ list.splitOn separator) :
    separator ∉ item ∧ ∀ c ∈ item, c ∈ list := by
  induction list generalizing item with
  | nil =>
    rw [List.splitOn_nil, List.mem_singleton] at h
    rw [h]
    exact ⟨List.not_mem_nil, fun c hc => hc⟩
  | cons d list ih =>
    rw [List.splitOn_cons_eq_if_modifyHead] at h
    split at h
    · rcases List.mem_cons.mp h with rfl | h
      · exact ⟨List.not_mem_nil, by simp⟩
      · exact ⟨(ih h).1, fun c hc => List.mem_cons_of_mem d ((ih h).2 c hc)⟩
    · rename_i hOther
      obtain ⟨first, others, hSplit⟩ := List.exists_cons_of_ne_nil (List.splitOn_ne_nil separator list)
      rw [hSplit, List.modifyHead_cons] at h
      rw [hSplit] at ih
      rcases List.mem_cons.mp h with rfl | h
      · obtain ⟨hFree, hChars⟩ := ih List.mem_cons_self
        refine ⟨?_, fun c hc => ?_⟩
        · rw [List.mem_cons, not_or]
          exact ⟨fun hEq => hOther (by rw [hEq, beq_self_eq_true]), hFree⟩
        · rcases List.mem_cons.mp hc with rfl | hc
          · exact List.mem_cons_self
          · exact List.mem_cons_of_mem d (hChars c hc)
      · obtain ⟨hFree, hChars⟩ := ih (List.mem_cons_of_mem first h)
        exact ⟨hFree, fun c hc => List.mem_cons_of_mem d (hChars c hc)⟩

theorem chars_of_mem_splitTerms (h : item ∈ splitTerms list) : ',' ∉ item ∧ ∀ c ∈ item, c ∈ list := by
  obtain ⟨part, hPart, rfl⟩ := List.mem_map.mp (List.mem_filter.mp h).1
  obtain ⟨hComma, hChars⟩ := mem_splitOn hPart
  have hTrimmed : ∀ c ∈ trimBlanks part, c ∈ part := fun c hc => (trimBlanks_isInfix part).subset hc
  exact ⟨fun hc => hComma (hTrimmed _ hc), fun c hc => hChars c (hTrimmed c hc)⟩

/-- A free value is a stretch of the text up to a semicolon. -/
theorem infix_of_freeValue? (h : freeValue? rest = some value) : value <:+: rest ∧ ';' ∉ value := by
  rw [freeValue?] at h
  split at h
  · obtain ⟨c, hc, rfl⟩ := Option.map_eq_some_iff.mp h
    have hMem : c ∈ rest.takeWhile isBlank := List.mem_of_getLast? hc
    have hBlank : isBlank c = true := List.mem_takeWhile_imp hMem
    constructor
    · rw [List.singleton_infix_iff]
      exact (List.takeWhile_prefix isBlank).subset hMem
    · rw [List.mem_singleton]
      rintro rfl
      exact absurd hBlank (by decide)
  · obtain rfl := Option.some.inj h
    constructor
    · exact (List.takeWhile_prefix _).isInfix.trans (List.dropWhile_suffix isBlank).isInfix
    · intro hMem
      have hOther := List.mem_takeWhile_imp hMem
      exact absurd hOther (by decide)

theorem infix_of_find?_free {tag : Tag} (hFree : tag.value? = freeValue?) {text : List Char}
    (h : tag.find? text = some value) : value <:+: text ∧ ';' ∉ value := by
  induction text with
  | nil => cases h
  | cons c text ih =>
    rw [Tag.find?_cons, Option.or_eq_some_iff] at h
    rcases h with hHere | ⟨-, hLater⟩
    · rw [Option.ite_none_right_eq_some, hFree] at hHere
      obtain ⟨hInfix, hSemicolon⟩ := infix_of_freeValue? hHere.2
      exact ⟨hInfix.trans (List.drop_suffix _ _).isInfix, hSemicolon⟩
    · obtain ⟨hInfix, hSemicolon⟩ := ih hLater
      exact ⟨hInfix.trans (List.suffix_cons _ _).isInfix, hSemicolon⟩

variable {typed word title : String}

theorem comma_not_mem_word (h : word ∈ (parse typed).words) : ',' ∉ word.toList := by
  rw [parse_eq_assemble] at h
  obtain ⟨term, hTerm, rfl⟩ := List.mem_map.mp h
  rw [String.toList_ofList]
  split at hTerm
  · exact (chars_of_mem_splitTerms hTerm).1
  · rw [List.mem_ite_nil_right] at hTerm
    exact (chars_of_mem_splitTerms hTerm.2).1

theorem semicolon_not_mem_word (hTag : Tag.word.find? (trimBlanks typed.toList) ≠ none)
    (h : word ∈ (parse typed).words) : ';' ∉ word.toList := by
  obtain ⟨list, hList⟩ := Option.ne_none_iff_exists'.mp hTag
  rw [parse_eq_assemble] at h
  simp only [assemble, hList] at h
  obtain ⟨term, hTerm, rfl⟩ := List.mem_map.mp h
  rw [String.toList_ofList]
  intro hSemicolon
  exact (infix_of_find?_free rfl hList).2 ((chars_of_mem_splitTerms hTerm).2 _ hSemicolon)

theorem mem_title (h : title ∈ (parse typed).title) :
    trimBlanks title.toList = title.toList ∧ title.toList ≠ [] ∧ ';' ∉ title.toList ∧
      title.toList <:+: typed.toList := by
  rw [parse_eq_assemble] at h
  obtain ⟨value, hValue, rfl⟩ := Option.map_eq_some_iff.mp h
  obtain ⟨hTrimmed, hNonempty⟩ := Option.filter_eq_some_iff.mp hValue
  obtain ⟨found, hFound, rfl⟩ := Option.map_eq_some_iff.mp hTrimmed
  obtain ⟨hInfix, hSemicolon⟩ := infix_of_find?_free rfl hFound
  have hStretch := trimBlanks_isInfix found
  rw [String.toList_ofList]
  refine ⟨trimBlanks_trimBlanks found, by simpa using hNonempty, fun hMem => hSemicolon (hStretch.subset hMem), ?_⟩
  exact (hStretch.trans hInfix).trans (trimBlanks_isInfix _)

theorem comma_not_mem_raw (h : (parse typed).isTagged = false) : ',' ∉ (parse typed).raw.toList := by
  rw [parse_eq_assemble] at h ⊢
  simp only [assemble, Bool.or_eq_false_iff] at h
  rw [assemble, String.toList_ofList]
  simpa using h.2

theorem ofKind_content_quoteFilters {q : Query} :
    Filter.ofKind .content q.quoteFilters = q.highlightTerms.map .contentWord := by
  cases hTagged : q.isTagged with
  | true => rw [quoteFilters_of_isTagged hTagged, ofKind_content_taggedFilters, highlightTerms]
  | false =>
    rw [quoteFilters, hTagged, if_neg Bool.false_ne_true, ofKind_map_contentWord, highlightTerms]

theorem trim_title_ne_empty (h : title ∈ (parse typed).title) : trim title ≠ "" := by
  obtain ⟨hTrimmed, hNonempty, -, -⟩ := mem_title h
  rw [← String.toList_inj.ne, toList_trim, hTrimmed]
  exact hNonempty

theorem trim_term_ne_empty (hTyped : trim typed ≠ "") {term : String}
    (h : term ∈ (parse typed).contentTerms) : trim term ≠ "" := by
  rw [← String.toList_inj.ne, toList_trim]
  exact trimBlanks_contentTerm_ne_nil hTyped h

theorem isNormal_parse : IsNormal typed (parse typed) where
  raw := rfl
  words word h := by
    obtain ⟨hTrimmed, hNonempty⟩ := mem_words h
    refine ⟨?_, ?_, comma_not_mem_word h⟩
    · rw [← String.toList_inj.ne]
      exact hNonempty
    · rw [← String.toList_inj, toList_trim, hTrimmed]
  taggedWords hTag word h := by
    refine semicolon_not_mem_word ?_ h
    rwa [← toList_trim]
  title title h := by
    obtain ⟨hTrimmed, hNonempty, hSemicolon, hInfix⟩ := mem_title h
    refine ⟨?_, ?_, hSemicolon, hInfix⟩
    · rw [← String.toList_inj.ne]
      exact hNonempty
    · rw [← String.toList_inj, toList_trim, hTrimmed]
  plain h := by
    obtain ⟨hId, hTitle, hWords⟩ := plain_of_not_isTagged h
    refine ⟨comma_not_mem_raw h, hId, hTitle, hWords, ?_⟩
    rw [contentTerms, h, if_neg Bool.false_ne_true]
  terms hTyped _ h := trim_term_ne_empty hTyped h

theorem term_of_mem_taggedFilters (hTyped : trim typed ≠ "") :
    ∀ f ∈ (parse typed).taggedFilters, ∀ term ∈ f.term?, trim term ≠ "" := by
  rw [forall_mem_taggedFilters]
  refine ⟨fun id _ term hTerm => (by cases hTerm), fun title hTitle term hTerm => ?_,
    fun content hContent term hTerm => ?_⟩
  · obtain rfl := Option.some.inj hTerm
    exact trim_title_ne_empty hTitle
  · obtain rfl := Option.some.inj hTerm
    exact trim_term_ne_empty hTyped hContent

theorem term_of_mem_filters (hTyped : trim typed ≠ "") {f : Filter}
    (h : f ∈ (parse typed).videoFilters ++ (parse typed).quoteFilters) {term : String} (hTerm : term ∈ f.term?) :
    trim term ≠ "" := by
  rw [List.mem_append] at h
  cases hTagged : (parse typed).isTagged with
  | true =>
    rw [videoFilters_of_isTagged hTagged, quoteFilters_of_isTagged hTagged, or_self] at h
    exact term_of_mem_taggedFilters hTyped f h term hTerm
  | false =>
    rw [videoFilters, quoteFilters, contentTerms, hTagged, if_neg Bool.false_ne_true,
      if_neg Bool.false_ne_true, if_neg Bool.false_ne_true, List.map_singleton, List.mem_singleton,
      List.mem_singleton] at h
    have hRaw : term = trim typed := by
      rcases h with rfl | rfl
      · exact (Option.some.inj hTerm).symm
      · exact (Option.some.inj hTerm).symm
    rwa [hRaw, ← String.toList_inj.ne, toList_trim, toList_trim, trimBlanks_trimBlanks, ← toList_trim,
      String.toList_inj.ne]

theorem hasUsableFilters_parse : HasUsableFilters typed (parse typed) where
  terms hTyped _ h _ hTerm := term_of_mem_filters hTyped h hTerm
  shared h := by rw [videoFilters_of_isTagged h, quoteFilters_of_isTagged h]
  empty := by
    cases hTagged : (parse typed).isTagged with
    | true => rw [videoFilters_of_isTagged hTagged, quoteFilters_of_isTagged hTagged]
    | false => simp [videoFilters, quoteFilters, contentTerms, hTagged]
  highlighted := ofKind_content_quoteFilters
  patterns := by
    rw [ofKind_content_quoteFilters, List.map_map]
    rfl

/-- Captures of nothing but blanks, lists of nothing but commas and tags inside of tags included. -/
theorem parsed_query_is_normal (typed : String) : parse (trim typed) = parse typed ∧
    IsNormal typed (parse typed) ∧ HasUsableFilters typed (parse typed) :=
  ⟨parse_trim typed, isNormal_parse, hasUsableFilters_parse⟩

end Query

end QuoteSearch
