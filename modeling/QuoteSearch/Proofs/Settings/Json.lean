import QuoteSearch.Proofs.Json.Fields
import QuoteSearch.Proofs.Json.Pretty
import QuoteSearch.Settings.File

/-! # Settings as JSON

The JSON form of settings is read as the same settings, whatever texts, numbers and groups of words
they hold.
-/

namespace QuoteSearch

open Json Json.Decode

namespace Json

theorem document_arr_map {α : Type} (toJson : α → Json) (as : List α) :
    document (.arr (as.map toJson)) = .list (as.map fun a => document (toJson a)) none := by
  rw [document, itemDocuments_eq_map, List.map_map]
  rfl

theorem document_obj (members : List (String × Json)) : document (.obj members) =
    .record (keyed (members.map fun member => (member.1, document member.2))) none := by
  rw [document, memberDocuments_eq_map, keyed, List.map_map]
  rfl

theorem isWhole_natural {n : Nat} (h : n ≤ Number.mostNatural) : IsWhole (.int n) :=
  .int (by omega) (Int.ofNat_le.mpr h)

theorem isWhole_uint16 (n : UInt16) : IsWhole (.int n.toNat) :=
  isWhole_natural (n.toNat_lt.le.trans (by decide))

theorem isWhole_uint32 (n : UInt32) : IsWhole (.int n.toNat) :=
  isWhole_natural (n.toNat_lt.le.trans (by decide))

end Json

namespace Json.Decode

theorem string_document (s : String) : string (document (.str s)) = .ok s := rfl

theorem integer_document {n : Nat} {most : Int} (h : n ≤ most) (expected : String) :
    integer 0 most expected (document (.int n)) = .ok n := by
  change (if (0 : Int) ≤ n ∧ (n : Int) ≤ most then Except.ok (n : Int) else _) = _
  rw [if_pos ⟨Int.natCast_nonneg n, h⟩]

theorem uint16_document (n : UInt16) : uint16 (document (.int n.toNat)) = .ok n := by
  have hMost : (n.toNat : Int) ≤ Int.pow 2 16 - 1 := by
    have hLess := n.toNat_lt
    change (n.toNat : Int) ≤ 65535
    omega
  rw [uint16, integer_document hMost]
  change Except.ok (UInt16.ofNat n.toNat) = _
  rw [UInt16.ofNat_toNat]

theorem uint32_document (n : UInt32) : uint32 (document (.int n.toNat)) = .ok n := by
  have hMost : (n.toNat : Int) ≤ Int.pow 2 32 - 1 := by
    have hLess := n.toNat_lt
    change (n.toNat : Int) ≤ 4294967295
    omega
  rw [uint32, integer_document hMost]
  change Except.ok (UInt32.ofNat n.toNat) = _
  rw [UInt32.ofNat_toNat]

end Json.Decode

namespace WordGroup

theorem decodeWords_document (words : List String) :
    decodeWords (document (.arr (words.map .str))) = .ok words := by
  rw [document_arr_map]
  exact list_map_eq_ok fun word _ => string_document word

theorem decode_document (g : WordGroup) : decode g.toJson.document = .ok g := by
  have hName := string_document g.name
  have hWords := decodeWords_document g.words
  rw [decode, toJson, document_obj, struct_complete]
  · exact bind_eq_of_ok (Fields.get_eq_ok rfl hName) (bind_eq_of_ok (Fields.get_eq_ok rfl hWords) rfl)
  · exact (by decide : ["name", "words"].Nodup)
  · exact .cons ⟨rfl, check_eq_none hName⟩ (.cons ⟨rfl, check_eq_none hWords⟩ .nil)

theorem isWhole_toJson (g : WordGroup) : g.toJson.IsWhole := by
  have hWords : IsWhole (.arr (g.words.map .str)) := .arr (List.forall_mem_map.mpr fun word _ => .str word)
  refine .obj ?_
  simp only [List.forall_mem_cons]
  exact ⟨.str g.name, hWords, fun _ h => (by cases h)⟩

end WordGroup

namespace ServerSettings

theorem decode_document (s : ServerSettings) : decode s.toJson.document = .ok s := by
  have hHost := string_document s.host
  have hPort := uint16_document s.port
  rw [decode, toJson, document_obj, struct_complete]
  · exact bind_eq_of_ok (Fields.get_eq_ok rfl hHost) (bind_eq_of_ok (Fields.get_eq_ok rfl hPort) rfl)
  · exact (by decide : ["host", "port"].Nodup)
  · exact .cons ⟨rfl, check_eq_none hHost⟩ (.cons ⟨rfl, check_eq_none hPort⟩ .nil)

theorem isWhole_toJson (s : ServerSettings) : s.toJson.IsWhole := by
  refine .obj ?_
  simp only [List.forall_mem_cons]
  exact ⟨.str s.host, isWhole_uint16 s.port, fun _ h => (by cases h)⟩

end ServerSettings

namespace DatabaseSettings

theorem decode_document (s : DatabaseSettings) : decode s.toJson.document = .ok s := by
  have hDirectory := string_document s.directory
  have hFile := string_document s.file
  rw [decode, toJson, document_obj, struct_complete]
  · exact bind_eq_of_ok (Fields.get_eq_ok rfl hDirectory) (bind_eq_of_ok (Fields.get_eq_ok rfl hFile) rfl)
  · exact (by decide : ["data_dir", "db_file"].Nodup)
  · exact .cons ⟨rfl, check_eq_none hDirectory⟩ (.cons ⟨rfl, check_eq_none hFile⟩ .nil)

theorem isWhole_toJson (s : DatabaseSettings) : s.toJson.IsWhole := by
  refine .obj ?_
  simp only [List.forall_mem_cons]
  exact ⟨.str s.directory, .str s.file, fun _ h => (by cases h)⟩

end DatabaseSettings

namespace SearchSettings

theorem decodeGroups_document (groups : List WordGroup) :
    decodeGroups (document (.arr (groups.map WordGroup.toJson))) = .ok groups := by
  rw [document_arr_map]
  exact list_map_eq_ok fun group _ => group.decode_document

theorem decode_document (s : SearchSettings) : decode s.toJson.document = .ok s := by
  have hQuotes := uint32_document s.quotesPerPage
  have hVideos := uint32_document s.videosPerPage
  have hRandom := uint32_document s.randomQuoteCount
  have hGroups := decodeGroups_document s.wordGroups
  rw [decode, toJson, document_obj, struct_complete]
  · exact bind_eq_of_ok (Fields.getD_eq_ok rfl hQuotes _) (bind_eq_of_ok (Fields.getD_eq_ok rfl hVideos _)
      (bind_eq_of_ok (Fields.getD_eq_ok rfl hRandom _) (bind_eq_of_ok (Fields.getD_eq_ok rfl hGroups _) rfl)))
  · exact (by decide : ["quotes_per_page", "videos_per_page", "random_quote_count", "word_groups"].Nodup)
  · exact .cons ⟨rfl, check_eq_none hQuotes⟩ (.cons ⟨rfl, check_eq_none hVideos⟩
      (.cons ⟨rfl, check_eq_none hRandom⟩ (.cons ⟨rfl, check_eq_none hGroups⟩ .nil)))

theorem isWhole_toJson (s : SearchSettings) : s.toJson.IsWhole := by
  have hGroups : IsWhole (.arr (s.wordGroups.map WordGroup.toJson)) :=
    .arr (List.forall_mem_map.mpr fun group _ => group.isWhole_toJson)
  refine .obj ?_
  simp only [List.forall_mem_cons]
  exact ⟨isWhole_uint32 s.quotesPerPage, isWhole_uint32 s.videosPerPage, isWhole_uint32 s.randomQuoteCount, hGroups,
    fun _ h => (by cases h)⟩

end SearchSettings

namespace Settings

theorem decode_document (s : Settings) : decode s.toJson.document = .ok s := by
  have hServer := s.server.decode_document
  have hDatabase := s.database.decode_document
  have hSearch := s.search.decode_document
  rw [decode, toJson, document_obj, struct_complete]
  · exact bind_eq_of_ok (Fields.getD_eq_ok rfl hServer _) (bind_eq_of_ok (Fields.getD_eq_ok rfl hDatabase _)
      (bind_eq_of_ok (Fields.getD_eq_ok rfl hSearch _) rfl))
  · exact (by decide : ["server", "database", "search"].Nodup)
  · exact .cons ⟨rfl, check_eq_none hServer⟩ (.cons ⟨rfl, check_eq_none hDatabase⟩
      (.cons ⟨rfl, check_eq_none hSearch⟩ .nil))

theorem isWhole_toJson (s : Settings) : s.toJson.IsWhole := by
  refine .obj ?_
  simp only [List.forall_mem_cons]
  exact ⟨s.server.isWhole_toJson, s.database.isWhole_toJson, s.search.isWhole_toJson, fun _ h => (by cases h)⟩

/-- The text of the settings file is read as the settings that were written. -/
theorem ofFileText_fileText (s : Settings) : ofFileText s.fileText = .ok s := by
  rw [ofFileText, fileText, ofText_pretty s.isWhole_toJson, s.decode_document]
  rfl

end Settings

end QuoteSearch
