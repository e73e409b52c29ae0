import QuoteSearch.Filter
import QuoteSearch.Proofs.Query.Tags

/-! # Writing a query

What a query asks for can be written with one tag for each part, in any order and in any case of
the names. Reading gives back what was asked for: a value holds no name of a tag and no semicolon,
so each tag is found in its own part only and its value is all that follows there.
-/

namespace QuoteSearch

open Text

namespace Query

theorem isBlank_of_isBareIdChar {c : Char} (h : isBareIdChar c = true) : isBlank c = false := by
  have hSmall : c.toNat < 128 := by
    simp only [isBareIdChar, isAsciiAlnum, Bool.or_eq_true, Bool.and_eq_true, decide_eq_true_eq,
      beq_iff_eq, Char.le_def, UInt32.le_iff_toNat_le] at h
    rcases h with ((((⟨-, h⟩ | ⟨-, h⟩) | ⟨-, h⟩) | rfl) | rfl)
    · exact Nat.lt_of_le_of_lt h (by decide)
    · exact Nat.lt_of_le_of_lt h (by decide)
    · exact Nat.lt_of_le_of_lt h (by decide)
    · decide
    · decide
  have hAscii : ∀ n < 128, isBareIdChar (Char.ofNat n) = true → isBlank (Char.ofNat n) = false := by
    decide
  rw [← Char.ofNat_toNat c] at h ⊢
  exact hAscii c.toNat hSmall h

theorem isBareId_of_colon_mem {raw : List Char} (h : ':' ∈ raw) : isBareId raw = false := by
  rw [isBareId, List.all_eq_false.mpr ⟨':', h, by decide⟩, Bool.and_false, Bool.false_and]

theorem freeValue?_eq_some {rest content : List Char} (hFront : rest.dropWhile isBlank = content)
    (hNonempty : content ≠ []) (hSemicolon : ';' ∉ content) : freeValue? rest = some content := by
  have hUpTo : content.takeWhile (· != ';') = content := by
    rw [List.takeWhile_eq_self_iff]
    intro c hc
    rw [bne_iff_ne]
    rintro rfl
    exact hSemicolon hc
  rw [freeValue?, hFront, hUpTo]
  cases content with
  | nil => exact absurd rfl hNonempty
  | cons c content => rfl

theorem freeValue?_space_cons {content : List Char} (hTrimmed : trimBlanks content = content ∧ content ≠ [])
    (hSemicolon : ';' ∉ content) : freeValue? (' ' :: content) = some content := by
  refine freeValue?_eq_some ?_ hTrimmed.2 hSemicolon
  rw [List.dropWhile_cons_of_pos (by decide), ← hTrimmed.1, dropWhile_trimBlanks]

theorem splitTerms_append_comma {item : List Char} (h : ',' ∉ item) (rest : List Char) :
    splitTerms (item ++ ',' :: rest) = splitTerms item ++ splitTerms rest := by
  rw [splitTerms, List.splitOn_append_cons_self_of_not_mem h, ← List.singleton_append,
    List.map_append, List.filter_append, ← List.splitOn_eq_singleton h]
  rfl

theorem splitTerms_blank_cons {c : Char} (hBlank : isBlank c = true) (hComma : c ≠ ',')
    (list : List Char) : splitTerms (c :: list) = splitTerms list := by
  rw [splitTerms, splitTerms, List.splitOn_cons_eq_if_modifyHead, if_neg (by simpa using hComma)]
  cases list.splitOn ',' with
  | nil => rfl
  | cons first rest => rw [List.modifyHead_cons, List.map_cons, trimBlanks_blank_cons hBlank, List.map_cons]

theorem splitTerms_of_trimmed {item : List Char} (hComma : ',' ∉ item) (hTrimmed : trimBlanks item = item)
    (hNonempty : item ≠ []) : splitTerms item = [item] := by
  simp [splitTerms, List.splitOn_eq_singleton hComma, hTrimmed, hNonempty]

theorem splitTerms_intercalate {items : List (List Char)} (hComma : ∀ item ∈ items, ',' ∉ item)
    (hTrimmed : ∀ item ∈ items, trimBlanks item = item ∧ item ≠ []) :
    splitTerms ([',', ' '].intercalate items) = items := by
  induction items with
  | nil => rfl
  | cons first rest ih =>
    obtain ⟨hFirstComma, hRestComma⟩ := List.forall_mem_cons.mp hComma
    obtain ⟨⟨hFirstTrimmed, hFirstNonempty⟩, hRestTrimmed⟩ := List.forall_mem_cons.mp hTrimmed
    have hFirst := splitTerms_of_trimmed hFirstComma hFirstTrimmed hFirstNonempty
    cases rest with
    | nil => rw [List.intercalate_singleton, hFirst]
    | cons second rest =>
      -- The blank after a comma goes to the next item, which is trimmed.
      rw [List.intercalate_cons_cons, List.append_assoc, List.cons_append, List.singleton_append,
        splitTerms_append_comma hFirstComma, splitTerms_blank_cons (by decide) (by decide), hFirst,
        ih hRestComma hRestTrimmed, List.singleton_append]

end Query

/-- A text that `title:` or `word:` takes as a value just as it stands. -/
structure IsFreeValue (value : List Char) : Prop where
  nonempty : value ≠ []
  trimmed : trimBlanks value = value
  noSemicolon : ';' ∉ value
  noTag : ∀ tag : Tag, ¬ tag.Mentions value

instance (value : List Char) : Decidable (IsFreeValue value) :=
  decidable_of_iff (value ≠ [] ∧ trimBlanks value = value ∧ ';' ∉ value ∧
      ∀ tag ∈ [Tag.id, Tag.title, Tag.word], ¬ tag.Mentions value)
    ⟨fun ⟨hNonempty, hTrimmed, hSemicolon, hTags⟩ =>
      ⟨hNonempty, hTrimmed, hSemicolon, fun tag => hTags tag (by cases tag <;> decide)⟩,
    fun h => ⟨h.nonempty, h.trimmed, h.noSemicolon, fun tag _ => h.noTag tag⟩⟩

theorem IsFreeValue.append_comma {a b : List Char} (ha : IsFreeValue a) (hb : IsFreeValue b) :
    IsFreeValue (a ++ [',', ' '] ++ b) := by
  rw [List.append_assoc]
  refine ⟨by simp, trimBlanks_append ha.trimmed ha.nonempty hb.trimmed hb.nonempty _, ?_, fun tag => ?_⟩
  · simp [ha.noSemicolon, hb.noSemicolon]
  · have hSpace : ¬ tag.Mentions ([] ++ ' ' :: b) :=
      (Tag.mentions_append_separator (by decide)).not.mpr (not_or.mpr ⟨tag.not_mentions_nil, hb.noTag tag⟩)
    exact (Tag.mentions_append_separator (by decide)).not.mpr (not_or.mpr ⟨ha.noTag tag, hSpace⟩)

theorem IsFreeValue.intercalate {values : List (List Char)} (hNonempty : values ≠ [])
    (hValues : ∀ value ∈ values, IsFreeValue value) : IsFreeValue ([',', ' '].intercalate values) := by
  induction values with
  | nil => exact absurd rfl hNonempty
  | cons first rest ih =>
    obtain ⟨hFirst, hRest⟩ := List.forall_mem_cons.mp hValues
    cases rest with
    | nil =>
      rw [List.intercalate_singleton]
      exact hFirst
    | cons second rest =>
      rw [List.intercalate_cons_cons]
      exact hFirst.append_comma (ih (List.cons_ne_nil _ _) hRest)

namespace Tag

/-- What can be written after a tag and read back. -/
def Carries : Tag → List Char → Prop
  | id, content => content.length = Query.idLength ∧ content.all Query.isBareIdChar = true
  | title, content | word, content => IsFreeValue content

instance : ∀ (tag : Tag) (content : List Char), Decidable (tag.Carries content)
  | id, content => inferInstanceAs
      (Decidable (content.length = Query.idLength ∧ content.all Query.isBareIdChar = true))
  | title, content | word, content => inferInstanceAs (Decidable (IsFreeValue content))

/-- A part of a query, with the name of the tag as it is spelled. -/
def write : Tag → List Char → List Char → List Char
  | id, spelled, content => spelled ++ content
  | title, spelled, content | word, spelled, content => spelled ++ ' ' :: content

variable {tag other : Tag} {spelled content : List Char}

theorem Carries.trimmed (h : tag.Carries content) : trimBlanks content = content ∧ content ≠ [] := by
  cases tag with
  | title => exact ⟨h.trimmed, h.nonempty⟩
  | word => exact ⟨h.trimmed, h.nonempty⟩
  | id =>
    obtain ⟨hLength, hChars⟩ := h
    refine ⟨trimBlanks_eq_self_iff.mpr ⟨fun c hc => ?_, fun c hc => ?_⟩, ?_⟩
    · exact Query.isBlank_of_isBareIdChar (List.all_eq_true.mp hChars c (List.mem_of_head? hc))
    · exact Query.isBlank_of_isBareIdChar (List.all_eq_true.mp hChars c (List.mem_of_getLast? hc))
    · rintro rfl
      cases hLength

theorem idValue?_of_carries (h : Tag.id.Carries content) : Query.idValue? content = some content := by
  have hFront : content.dropWhile isBlank = content := by
    rw [← h.trimmed.1, dropWhile_trimBlanks]
  obtain ⟨hLength, hChars⟩ := h
  have hAll : content.all Query.isTaggedIdChar = true := by
    rw [List.all_eq_true]
    intro c hc
    rw [Query.isTaggedIdChar, List.all_eq_true.mp hChars c hc, Bool.true_or, Bool.true_or]
  simp only [Query.idValue?, hFront, List.take_of_length_le hLength.le, hLength, hAll, decide_true,
    Bool.and_self, if_true]

theorem find?_write (h : tag.Carries content) (hName : lowered spelled = tag.name) :
    tag.find? (tag.write spelled content) = some content := by
  cases tag with
  | id => exact find?_of_name hName (idValue?_of_carries h)
  | title => exact find?_of_name hName (Query.freeValue?_space_cons h.trimmed h.noSemicolon)
  | word => exact find?_of_name hName (Query.freeValue?_space_cons h.trimmed h.noSemicolon)

theorem not_mentions_write (h : tag.Carries content) (hName : lowered spelled = tag.name)
    (hOther : other ≠ tag) : ¬ other.Mentions (tag.write spelled content) := by
  have hSpelled := not_mentions_name hOther hName
  cases tag with
  | id =>
    refine fun hMentions => hSpelled (mentions_of_append (fun hColon => ?_) hMentions)
    exact absurd (List.all_eq_true.mp h.2 ':' hColon) (by decide)
  | title => exact (mentions_append_separator (by decide)).not.mpr (not_or.mpr ⟨hSpelled, h.noTag other⟩)
  | word => exact (mentions_append_separator (by decide)).not.mpr (not_or.mpr ⟨hSpelled, h.noTag other⟩)

theorem colon_mem_write (hName : lowered spelled = tag.name) (content : List Char) :
    ':' ∈ tag.write spelled content := by
  have hColon : ':' ∈ spelled := by
    rw [← mem_lowered_iff (by decide), hName]
    cases tag <;> decide
  cases tag
  · exact List.mem_append_left _ hColon
  · exact List.mem_append_left _ hColon
  · exact List.mem_append_left _ hColon

theorem trimmed_write (h : trimBlanks content = content ∧ content ≠ [])
    (hName : lowered spelled = tag.name) :
    trimBlanks (tag.write spelled content) = tag.write spelled content := by
  have hSpelled : trimBlanks spelled = spelled := by
    apply trimmed_of_lowered
    rw [hName]
    cases tag <;> decide
  have hNonempty : spelled ≠ [] := by
    rintro rfl
    exact tag.name_ne_nil hName.symm
  have hBetween := trimBlanks_append hSpelled hNonempty h.1 h.2
  cases tag with
  | id => exact hBetween []
  | title => exact hBetween [' ']
  | word => exact hBetween [' ']

end Tag

/-- What a query can ask for by tags. -/
structure Criteria where
  videoId : Option String
  title : Option String
  words : List String
  idCarried : ∀ id, videoId = some id → Tag.id.Carries id.toList
  titleCarried : ∀ t, title = some t → Tag.title.Carries t.toList
  wordsCarried : ∀ word ∈ words, Tag.word.Carries word.toList ∧ ',' ∉ word.toList
  nonempty : videoId ≠ none ∨ title ≠ none ∨ words ≠ []

namespace Criteria

variable (asked : Criteria)

/-- What follows each tag that is used. -/
def content? : Tag → Option (List Char)
  | .id => asked.videoId.map String.toList
  | .title => asked.title.map String.toList
  | .word => if asked.words = [] then none else some ([',', ' '].intercalate (asked.words.map String.toList))

def parts (spell : Tag → List Char) (order : List Tag) : List (List Char) :=
  order.filterMap fun tag => (asked.content? tag).map (tag.write (spell tag))

/-- The query with its parts in some order and the tag names in some spelling. -/
def written (spell : Tag → List Char) (order : List Tag) : String :=
  String.ofList ([';', ' '].intercalate (asked.parts spell order))

/-- The conditions that the criteria lay on videos and on quotes. -/
def filters : List Filter :=
  asked.videoId.toList.map .videoId ++ asked.title.toList.map .titleWord ++ asked.words.map .contentWord

variable {asked} {tag : Tag} {content text : List Char}

theorem carries_of_content? (h : asked.content? tag = some content) : tag.Carries content := by
  cases tag with
  | id =>
    obtain ⟨id, hId, rfl⟩ := Option.map_eq_some_iff.mp h
    exact asked.idCarried id hId
  | title =>
    obtain ⟨title, hTitle, rfl⟩ := Option.map_eq_some_iff.mp h
    exact asked.titleCarried title hTitle
  | word =>
    rw [content?, Option.ite_none_left_eq_some, Option.some_inj] at h
    obtain ⟨hNonempty, rfl⟩ := h
    refine IsFreeValue.intercalate (List.map_eq_nil_iff.not.mpr hNonempty) (List.forall_mem_map.mpr ?_)
    exact fun word hWord => (asked.wordsCarried word hWord).1

theorem exists_content? (asked : Criteria) : ∃ tag content, asked.content? tag = some content := by
  rcases asked.nonempty with h | h | h
  · obtain ⟨id, hId⟩ := Option.ne_none_iff_exists'.mp h
    exact ⟨.id, id.toList, by rw [content?, hId, Option.map_some]⟩
  · obtain ⟨title, hTitle⟩ := Option.ne_none_iff_exists'.mp h
    exact ⟨.title, title.toList, by rw [content?, hTitle, Option.map_some]⟩
  · exact ⟨.word, _, if_neg h⟩

theorem assemble_content? (asked : Criteria) {raw : List Char} (hRaw : Query.isBareId raw = false) :
    Query.assemble raw asked.content? = ⟨String.ofList raw, asked.videoId, asked.title, asked.words, true⟩ := by
  have hExplicit : ((asked.content? .id).isSome || (asked.content? .title).isSome ||
      (asked.content? .word).isSome) = true := by
    obtain ⟨tag, content, hContent⟩ := asked.exists_content?
    cases tag <;> simp [hContent]
  have hId : (asked.content? .id).map String.ofList = asked.videoId := by
    simp [content?, Function.comp_def]
  have hTitle : (((asked.content? .title).map trimBlanks).filter fun t => !t.isEmpty).map String.ofList =
      asked.title := by
    cases hSome : asked.title with
    | none => simp [content?, hSome]
    | some title =>
      have hValue := asked.titleCarried title hSome
      simp [content?, hSome, hValue.trimmed]
  simp only [Query.assemble, hRaw, Bool.false_eq_true, if_false, Option.or_none, hExplicit, hId, hTitle,
    Bool.true_or, Bool.not_true, Bool.false_and]
  congr 1
  by_cases hWords : asked.words = []
  · simp [content?, hWords]
  · have hTerms : Query.splitTerms ([',', ' '].intercalate (asked.words.map String.toList)) =
        asked.words.map String.toList :=
      Query.splitTerms_intercalate (List.forall_mem_map.mpr fun word h => (asked.wordsCarried word h).2)
        (List.forall_mem_map.mpr fun word h => (asked.wordsCarried word h).1.trimmed)
    simp [content?, hWords, hTerms, Function.comp_def]

section Reading

variable {spell : Tag → List Char} {order : List Tag} (hSpell : ∀ tag, lowered (spell tag) = tag.name)
  (hOrder : ∀ tag, tag ∈ order)

include hOrder in
theorem write_mem_parts (h : asked.content? tag = some content) :
    tag.write (spell tag) content ∈ asked.parts spell order :=
  List.mem_filterMap.mpr ⟨tag, hOrder tag, by rw [h, Option.map_some]⟩

theorem exists_of_mem_parts (h : text ∈ asked.parts spell order) :
    ∃ tag content, asked.content? tag = some content ∧ text = tag.write (spell tag) content := by
  obtain ⟨tag, -, hText⟩ := List.mem_filterMap.mp h
  obtain ⟨content, hContent, rfl⟩ := Option.map_eq_some_iff.mp hText
  exact ⟨tag, content, hContent, rfl⟩

include hSpell hOrder

/-- Each tag is found in its own part and nowhere else. -/
theorem find?_parts (tag : Tag) :
    tag.find? ([';', ' '].intercalate (asked.parts spell order)) = asked.content? tag := by
  rw [Tag.find?_intercalate]
  cases hFound : (asked.parts spell order).findSome? tag.find? with
  | none =>
    cases hContent : asked.content? tag with
    | none => rfl
    | some content =>
      have hNone := List.findSome?_eq_none_iff.mp hFound _ (write_mem_parts hOrder hContent)
      rw [Tag.find?_write (carries_of_content? hContent) (hSpell tag)] at hNone
      cases hNone
  | some value =>
    -- The part in which it was found is its own, since the others do not mention the tag.
    obtain ⟨text, hText, hValue⟩ := List.exists_of_findSome?_eq_some hFound
    obtain ⟨other, content, hContent, rfl⟩ := exists_of_mem_parts hText
    have hCarries := carries_of_content? hContent
    by_cases hSame : tag = other
    · subst hSame
      rw [Tag.find?_write hCarries (hSpell tag)] at hValue
      rw [hContent, hValue]
    · rw [Tag.find?_eq_none (Tag.not_mentions_write hCarries (hSpell other) hSame)] at hValue
      cases hValue

theorem trimmed_parts : trimBlanks ([';', ' '].intercalate (asked.parts spell order)) =
    [';', ' '].intercalate (asked.parts spell order) := by
  obtain ⟨tag, content, hContent⟩ := asked.exists_content?
  refine (trimBlanks_intercalate _ (List.ne_nil_of_mem (write_mem_parts hOrder hContent)) ?_).1
  intro text hText
  obtain ⟨tag, content, hContent, rfl⟩ := exists_of_mem_parts hText
  exact ⟨Tag.trimmed_write (carries_of_content? hContent).trimmed (hSpell tag),
    List.ne_nil_of_mem (Tag.colon_mem_write (hSpell tag) content)⟩

theorem colon_mem_parts : ':' ∈ [';', ' '].intercalate (asked.parts spell order) := by
  obtain ⟨tag, content, hContent⟩ := asked.exists_content?
  have hMem : tag.write (spell tag) content ∈ asked.parts spell order := write_mem_parts hOrder hContent
  cases hParts : asked.parts spell order with
  | nil => exact absurd hParts (List.ne_nil_of_mem hMem)
  | cons first rest =>
    obtain ⟨tag, content, -, rfl⟩ := exists_of_mem_parts (hParts ▸ List.mem_cons_self)
    have hColon := Tag.colon_mem_write (hSpell tag) content
    cases rest with
    | nil => rwa [List.intercalate_singleton]
    | cons second rest =>
      rw [List.intercalate_cons_cons, List.append_assoc]
      exact List.mem_append_left _ hColon

theorem parse_written : Query.parse (asked.written spell order) =
    ⟨asked.written spell order, asked.videoId, asked.title, asked.words, true⟩ := by
  have hTrimmed : trimBlanks ([';', ' '].intercalate (asked.parts spell order)) =
      [';', ' '].intercalate (asked.parts spell order) := trimmed_parts hSpell hOrder
  have hBare : Query.isBareId ([';', ' '].intercalate (asked.parts spell order)) = false :=
    Query.isBareId_of_colon_mem (colon_mem_parts hSpell hOrder)
  rw [Query.parse_eq_assemble, written, String.toList_ofList, hTrimmed, funext (find?_parts hSpell hOrder)]
  exact asked.assemble_content? hBare

end Reading

/-- Every order of the parts and every spelling of the names is read the same way. -/
theorem parse_undoes_writing (asked : Criteria) (spell : Tag → List Char) (order : List Tag)
    (hSpell : ∀ tag, lowered (spell tag) = tag.name) (hOrder : order.Perm [.id, .title, .word]) :
    let query := Query.parse (asked.written spell order)
    query = ⟨asked.written spell order, asked.videoId, asked.title, asked.words, true⟩ ∧
      query.videoFilters = asked.filters ∧ query.quoteFilters = asked.filters := by
  have hEvery : ∀ tag, tag ∈ order := fun tag => hOrder.mem_iff.mpr (by cases tag <;> decide)
  have hParse : Query.parse (asked.written spell order) =
      ⟨asked.written spell order, asked.videoId, asked.title, asked.words, true⟩ :=
    parse_written hSpell hEvery
  refine ⟨hParse, ?_, ?_⟩
  · rw [hParse]
    rfl
  · rw [hParse]
    rfl

/-- An id, a title with a comma and a word that is given twice. -/
def sample : Criteria where
  videoId := some "dQw4w9WgXcQ"
  title := some "intro, part two"
  words := ["été", "long cat", "été"]
  idCarried := by
    rintro _ ⟨⟩
    decide
  titleCarried := by
    rintro _ ⟨⟩
    decide
  wordsCarried := by decide
  nonempty := by decide

def sampleSpelling : Tag → List Char
  | .id => "Id:".toList
  | .title => "TITLE:".toList
  | .word => "wOrD:".toList

theorem parse_sample_written :
    let query := Query.parse "wOrD: été, long cat, été; Id:dQw4w9WgXcQ; TITLE: intro, part two"
    query.isTagged = true ∧ query.videoId = some "dQw4w9WgXcQ" ∧ query.title = some "intro, part two" ∧
      query.words = ["été", "long cat", "été"] ∧ query.videoFilters = sample.filters ∧
      query.quoteFilters = sample.filters := by
  have hSpell : ∀ tag, lowered (sampleSpelling tag) = tag.name := by
    intro tag
    cases tag <;> decide
  have hText : sample.written sampleSpelling [.word, .id, .title] =
      "wOrD: été, long cat, été; Id:dQw4w9WgXcQ; TITLE: intro, part two" := by decide
  obtain ⟨hParse, hVideos, hQuotes⟩ :=
    parse_undoes_writing sample sampleSpelling [.word, .id, .title] hSpell (by decide)
  rw [hText] at hParse hVideos hQuotes
  refine ⟨?_, ?_, ?_, ?_, hVideos, hQuotes⟩
  all_goals rw [hParse]
  all_goals rfl

end Criteria

end QuoteSearch
