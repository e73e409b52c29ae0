import QuoteSearch.Proofs.Query.Filters
import QuoteSearch.Proofs.Query.Written

/-! # Queries for one video

An id behind its tag asks for the video with this id and for nothing else. So does an id without
the tag if it could not be a plain word.
-/

namespace QuoteSearch

open Text

namespace Query

def forVideo (raw id : String) : Query := ⟨raw, some id, none, [], true⟩

variable {raw id : String}

theorem videoFilters_forVideo : (forVideo raw id).videoFilters = [.videoId id] := rfl

theorem quoteFilters_forVideo : (forVideo raw id).quoteFilters = [.videoId id] := rfl

theorem highlightTerms_forVideo : (forVideo raw id).highlightTerms = [] := rfl

theorem compiles_forVideo : (forVideo raw id).compiles = true := rfl

theorem length_words_forVideo : (forVideo raw id).words.length ≤ mostWords := Nat.zero_le _

theorem isBareId_iff {raw : List Char} : isBareId raw = true ↔
    Tag.id.Carries raw ∧ ∃ c ∈ raw, c.isDigit = true ∨ c = '-' ∨ c = '_' := by
  simp [isBareId, Tag.Carries, or_assoc]

end Query

namespace Tag

theorem Carries.not_mem_id {c : Char} (hc : Query.isBareIdChar c = false) {content : List Char}
    (h : Tag.id.Carries content) : c ∉ content := by
  intro hMem
  have hChar : Query.isBareIdChar c = true := List.all_eq_true.mp h.2 c hMem
  rw [hc] at hChar
  cases hChar

/-- A name ends with a colon, and there is none in an id. -/
theorem find?_id_eq_none {content : List Char} (h : Tag.id.Carries content) (tag : Tag) :
    tag.find? content = none := by
  apply find?_eq_none
  intro hMentions
  have hColon : ':' ∉ content := h.not_mem_id (by decide)
  exact tag.not_mentions_nil (mentions_of_append (a := []) hColon hMentions)

end Tag

/-- Only the video with this id is asked for. -/
def Criteria.forVideo (id : String) (h : Tag.id.Carries id.toList) : Criteria where
  videoId := some id
  title := none
  words := []
  idCarried := by
    rintro _ ⟨⟩
    exact h
  titleCarried := nofun
  wordsCarried := nofun
  nonempty := .inl (Option.some_ne_none id)

namespace Query

variable {id : String}

theorem trim_id (h : Tag.id.Carries id.toList) : trim id = id := by
  rw [← String.toList_inj, toList_trim, h.trimmed.1]

theorem parse_tagged_id (h : Tag.id.Carries id.toList) :
    parse ("id:" ++ id) = forVideo ("id:" ++ id) id := by
  have hEvery : ∀ tag : Tag, tag ∈ [Tag.id, .title, .word] := by
    intro tag
    cases tag <;> decide
  have hText : (Criteria.forVideo id h).written Tag.name [.id, .title, .word] = "id:" ++ id := by
    rw [← String.toList_inj, String.toList_append]
    simp [Criteria.forVideo, Criteria.written, Criteria.parts, Criteria.content?, Tag.write, Tag.name]
  have hParse : parse ((Criteria.forVideo id h).written Tag.name [.id, .title, .word]) = _ :=
    Criteria.parse_written Tag.lowered_name hEvery
  rw [hText] at hParse
  exact hParse

theorem parse_bare_id (h : isBareId id.toList = true) : parse id = forVideo id id := by
  obtain ⟨hId, -⟩ := isBareId_iff.mp h
  have hComma : ',' ∉ id.toList := hId.not_mem_id (by decide)
  rw [parse_eq_assemble, hId.trimmed.1, funext (Tag.find?_id_eq_none hId)]
  simp [assemble, h, hComma, forVideo]

end Query

end QuoteSearch
