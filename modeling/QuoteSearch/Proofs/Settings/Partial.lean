import QuoteSearch.Proofs.Json.Partial
import QuoteSearch.Proofs.Settings.File

/-! # Settings that are given in part

A settings file may leave out whole sections, and single keys of the search section; they have their default
values then, in whatever order the rest is given and whatever else stands there. The keys of the other two
sections have no defaults of their own: a file with such a section in part is refused.
-/

namespace QuoteSearch

open FileTree Json Json.Decode

variable {removed : List String} {levels : Nat} {doc : Document}

section

variable {α β γ : Type} {key key' : String} {a : α} {b : β}

/-- The outcome for a structure all keys of which are required. -/
def requiring (removed keys : List String) (a : α) : Except DecodeFault α :=
  (keys.find? (removed.contains ·)).elim (.ok a) fun key => .error (.missingField key)

def required (removed : List String) (key : String) (a : α) : Except DecodeFault α :=
  if isKept removed 1 key then .ok a else .error (.missingField key)

theorem required_bind_required (f : α → β → γ) :
    (do return f (← required removed key a) (← required removed key' b)) = requiring removed [key, key'] (f a b) := by
  have hKept : ∀ key, isKept removed 1 key = !removed.contains key := fun _ => rfl
  simp only [required, hKept, requiring, List.find?_cons, List.find?_nil]
  cases removed.contains key <;> cases removed.contains key' <;> rfl

theorem requiring_eq_ok {keys : List String} (h : keys.find? (removed.contains ·) = none) :
    requiring removed keys a = .ok a := by
  rw [requiring, h]
  rfl

theorem check_of_requiring {keys : List String} {decoder : Decoder α} (h : decoder doc = requiring removed keys a) :
    check decoder doc = (keys.find? (removed.contains ·)).map .missingField := by
  rw [check, h, requiring]
  cases keys.find? (removed.contains ·) <;> rfl

end

theorem ite_isKept {α : Type} (key : String) (a default : α) :
    (if isKept removed (levels + 1) key then a else default) = if key ∈ removed then default else a := by
  simp only [isKept_succ_iff, ite_not]

theorem string_of_isShownBy {s : String} (h : IsShownBy removed levels (.str s) doc) : string doc = .ok s := by
  cases h
  exact string_document s

theorem uint16_of_isShownBy {n : UInt16} (h : IsShownBy removed levels (.int n.toNat) doc) : uint16 doc = .ok n := by
  cases h
  exact uint16_document n

theorem uint32_of_isShownBy {n : UInt32} (h : IsShownBy removed levels (.int n.toNat) doc) : uint32 doc = .ok n := by
  cases h
  exact uint32_document n

namespace WordGroup

theorem decode_of_isShownBy {g : WordGroup} (h : IsShownBy removed 0 g.toJson doc) (hSkim : doc.skim = none) :
    decode doc = .ok g := by
  obtain ⟨value, docs, hShows, hValues, hDecode⟩ :=
    exists_showsFields (rfl : decode = _) h hSkim rfl (by decide : ["name", "words"].Nodup)
  have hName : string (value "name") = .ok g.name := string_of_isShownBy (hValues ("name", _) (by simp) rfl)
  have hWords : decodeWords (value "words") = .ok g.words := by
    refine list_of_isShownBy (hValues ("words", .arr (g.words.map .str)) (by simp) rfl)
      (hShows.skim ("words", .arr (g.words.map .str)) (by simp) rfl) fun word doc hWord _ => ?_
    exact string_of_isShownBy hWord
  have hPasses := hShows.passes.mpr (by
    simp only [List.forall_mem_cons]
    exact ⟨fun _ => check_eq_none hName, fun _ => check_eq_none hWords, fun _ h => (by cases h)⟩)
  rw [hDecode, hPasses, Option.elim_none, hShows.get (v := .str g.name) (by simp) fun _ => hName,
    hShows.get (v := .arr (g.words.map .str)) (by simp) fun _ => hWords]
  rfl

end WordGroup

namespace ServerSettings

theorem decode_of_isShownBy {s : ServerSettings} (h : IsShownBy removed 1 s.toJson doc) (hSkim : doc.skim = none) :
    decode doc = requiring removed ["host", "port"] s := by
  obtain ⟨value, docs, hShows, hValues, hDecode⟩ :=
    exists_showsFields (rfl : decode = _) h hSkim rfl (by decide : ["host", "port"].Nodup)
  have hHost : isKept removed 1 "host" = true → string (value "host") = .ok s.host := fun hKept =>
    string_of_isShownBy (hValues ("host", .str s.host) (by simp) hKept)
  have hPort : isKept removed 1 "port" = true → uint16 (value "port") = .ok s.port := fun hKept =>
    uint16_of_isShownBy (hValues ("port", .int s.port.toNat) (by simp) hKept)
  have hPasses := hShows.passes.mpr (by
    simp only [List.forall_mem_cons]
    exact ⟨fun hKept => check_eq_none (hHost hKept), fun hKept => check_eq_none (hPort hKept), fun _ h => (by cases h)⟩)
  rw [hDecode, hPasses, Option.elim_none, hShows.get (v := .str s.host) (by simp) hHost,
    hShows.get (v := .int s.port.toNat) (by simp) hPort]
  exact required_bind_required ServerSettings.mk

end ServerSettings

namespace DatabaseSettings

theorem decode_of_isShownBy {s : DatabaseSettings} (h : IsShownBy removed 1 s.toJson doc) (hSkim : doc.skim = none) :
    decode doc = requiring removed ["data_dir", "db_file"] s := by
  obtain ⟨value, docs, hShows, hValues, hDecode⟩ :=
    exists_showsFields (rfl : decode = _) h hSkim rfl (by decide : ["data_dir", "db_file"].Nodup)
  have hDirectory : isKept removed 1 "data_dir" = true → string (value "data_dir") = .ok s.directory := fun hKept =>
    string_of_isShownBy (hValues ("data_dir", .str s.directory) (by simp) hKept)
  have hFile : isKept removed 1 "db_file" = true → string (value "db_file") = .ok s.file := fun hKept =>
    string_of_isShownBy (hValues ("db_file", .str s.file) (by simp) hKept)
  have hPasses := hShows.passes.mpr (by
    simp only [List.forall_mem_cons]
    exact ⟨fun hKept => check_eq_none (hDirectory hKept), fun hKept => check_eq_none (hFile hKept),
      fun _ h => (by cases h)⟩)
  rw [hDecode, hPasses, Option.elim_none, hShows.get (v := .str s.directory) (by simp) hDirectory,
    hShows.get (v := .str s.file) (by simp) hFile]
  exact required_bind_required DatabaseSettings.mk

end DatabaseSettings

namespace SearchSettings

/-- The search section with the default values for what is removed. -/
def completed (removed : List String) (s : SearchSettings) : SearchSettings where
  quotesPerPage := if "quotes_per_page" ∈ removed then default.quotesPerPage else s.quotesPerPage
  videosPerPage := if "videos_per_page" ∈ removed then default.videosPerPage else s.videosPerPage
  randomQuoteCount := if "random_quote_count" ∈ removed then default.randomQuoteCount else s.randomQuoteCount
  wordGroups := if "word_groups" ∈ removed then default.wordGroups else s.wordGroups

theorem decode_of_isShownBy {s : SearchSettings} (h : IsShownBy removed 1 s.toJson doc) (hSkim : doc.skim = none) :
    decode doc = .ok (s.completed removed) := by
  obtain ⟨value, docs, hShows, hValues, hDecode⟩ := exists_showsFields (rfl : decode = _) h hSkim rfl
    (by decide : ["quotes_per_page", "videos_per_page", "random_quote_count", "word_groups"].Nodup)
  have hQuotes : isKept removed 1 "quotes_per_page" = true → uint32 (value "quotes_per_page") = .ok s.quotesPerPage :=
    fun hKept => uint32_of_isShownBy (hValues ("quotes_per_page", .int s.quotesPerPage.toNat) (by simp) hKept)
  have hVideos : isKept removed 1 "videos_per_page" = true → uint32 (value "videos_per_page") = .ok s.videosPerPage :=
    fun hKept => uint32_of_isShownBy (hValues ("videos_per_page", .int s.videosPerPage.toNat) (by simp) hKept)
  have hRandom : isKept removed 1 "random_quote_count" = true →
      uint32 (value "random_quote_count") = .ok s.randomQuoteCount :=
    fun hKept => uint32_of_isShownBy (hValues ("random_quote_count", .int s.randomQuoteCount.toNat) (by simp) hKept)
  have hGroups : isKept removed 1 "word_groups" = true → decodeGroups (value "word_groups") = .ok s.wordGroups := by
    intro hKept
    refine list_of_isShownBy (hValues ("word_groups", .arr (s.wordGroups.map WordGroup.toJson)) (by simp) hKept)
      (hShows.skim ("word_groups", .arr (s.wordGroups.map WordGroup.toJson)) (by simp) hKept) ?_
    exact fun group doc hGroup hSkim => WordGroup.decode_of_isShownBy hGroup hSkim
  have hPasses := hShows.passes.mpr (by
    simp only [List.forall_mem_cons]
    exact ⟨fun hKept => check_eq_none (hQuotes hKept), fun hKept => check_eq_none (hVideos hKept),
      fun hKept => check_eq_none (hRandom hKept), fun hKept => check_eq_none (hGroups hKept), fun _ h => (by cases h)⟩)
  rw [hDecode, hPasses, Option.elim_none, hShows.getD (v := .int s.quotesPerPage.toNat) (by simp) hQuotes,
    hShows.getD (v := .int s.videosPerPage.toNat) (by simp) hVideos,
    hShows.getD (v := .int s.randomQuoteCount.toNat) (by simp) hRandom,
    hShows.getD (v := .arr (s.wordGroups.map WordGroup.toJson)) (by simp) hGroups]
  simp only [ite_isKept]
  rfl

end SearchSettings

namespace Settings

/-- The settings with the default values for what is removed. -/
def completed (removed : List String) (s : Settings) : Settings where
  server := if "server" ∈ removed then default.server else
    { host := if "host" ∈ removed then default.server.host else s.server.host
      port := if "port" ∈ removed then default.server.port else s.server.port }
  database := if "database" ∈ removed then default.database else
    { directory := if "data_dir" ∈ removed then default.database.directory else s.database.directory
      file := if "db_file" ∈ removed then default.database.file else s.database.file }
  search := if "search" ∈ removed then default.search else s.search.completed removed

/-- The sections that have to be complete where they stand, with their keys. -/
def completeSections : List (String × List String) :=
  [("server", ["host", "port"]), ("database", ["data_dir", "db_file"])]

/-- The keys that are removed from such a section that stands there. -/
def missingKeys (removed : List String) : List String :=
  completeSections.flatMap fun entry => if entry.1 ∈ removed then [] else entry.2.filter (· ∈ removed)

theorem mem_missingKeys {entry : String × List String} {key : String} (hEntry : entry ∈ completeSections)
    (hKept : isKept removed (levels + 1) entry.1 = true) (hKey : entry.2.find? (removed.contains ·) = some key) :
    key ∈ missingKeys removed := by
  refine List.mem_flatMap.mpr ⟨entry, hEntry, ?_⟩
  rw [if_neg (isKept_succ_iff.mp hKept)]
  exact List.mem_filter.mpr ⟨List.mem_of_find?_eq_some hKey, by simpa using List.find?_some hKey⟩

theorem exists_missingKey_of_check {α : Type} {a : α} {decoder : Decoder α} {fault : DecodeFault}
    {entry : String × List String} (hEntry : entry ∈ completeSections)
    (hKept : isKept removed (levels + 1) entry.1 = true) (hDecode : decoder doc = requiring removed entry.2 a)
    (hCheck : check decoder doc = some fault) : ∃ key ∈ missingKeys removed, fault = .missingField key := by
  rw [check_of_requiring hDecode, Option.map_eq_some_iff] at hCheck
  obtain ⟨key, hKey, rfl⟩ := hCheck
  exact ⟨key, mem_missingKeys hEntry hKept hKey, rfl⟩

theorem missingKeys_eq_nil_iff : missingKeys removed = [] ↔
    ∀ entry ∈ completeSections, isKept removed 2 entry.1 = true → entry.2.find? (removed.contains ·) = none := by
  rw [missingKeys, List.flatMap_eq_nil_iff]
  refine forall₂_congr fun entry _ => ?_
  rw [isKept_succ_iff]
  split
  · rename_i hRemoved
    exact iff_of_true rfl fun hKept => absurd hRemoved hKept
  · rename_i hKept
    simp [hKept]

theorem forall_completeSections {P : String × List String → Prop} : (∀ entry ∈ completeSections, P entry) ↔
    P ("server", ["host", "port"]) ∧ P ("database", ["data_dir", "db_file"]) := by
  simp [completeSections]

theorem completed_eq (h : missingKeys removed = []) (s : Settings) : s.completed removed =
    ⟨if "server" ∈ removed then default.server else s.server,
      if "database" ∈ removed then default.database else s.database,
      if "search" ∈ removed then default.search else s.search.completed removed⟩ := by
  rw [missingKeys_eq_nil_iff, forall_completeSections] at h
  obtain ⟨hServer, hDatabase⟩ := h
  simp only [isKept_succ_iff, List.find?_eq_none, List.forall_mem_cons, List.contains_iff_mem] at hServer hDatabase
  rw [completed, Settings.mk.injEq]
  refine ⟨?_, ?_, rfl⟩
  · split
    · rfl
    · rename_i hKept
      rw [if_neg (hServer hKept).1, if_neg (hServer hKept).2.1]
  · split
    · rfl
    · rename_i hKept
      rw [if_neg (hDatabase hKept).1, if_neg (hDatabase hKept).2.1]

structure DecodesSections (removed : List String) (s : Settings) (value : String → Document) : Prop where
  server : isKept removed 2 "server" = true →
    ServerSettings.decode (value "server") = requiring removed ["host", "port"] s.server
  database : isKept removed 2 "database" = true →
    DatabaseSettings.decode (value "database") = requiring removed ["data_dir", "db_file"] s.database
  search : isKept removed 2 "search" = true → SearchSettings.decode (value "search") = .ok (s.search.completed removed)

variable {s : Settings} {value : String → Document}

theorem DecodesSections.missingKeys_eq_nil (h : DecodesSections removed s value)
    (hServer : isKept removed 2 "server" = true → check ServerSettings.decode (value "server") = none)
    (hDatabase : isKept removed 2 "database" = true → check DatabaseSettings.decode (value "database") = none) :
    missingKeys removed = [] := by
  rw [missingKeys_eq_nil_iff, forall_completeSections]
  constructor
  · intro hKept
    have hCheck := hServer hKept
    rwa [check_of_requiring (h.server hKept), Option.map_eq_none_iff] at hCheck
  · intro hKept
    have hCheck := hDatabase hKept
    rwa [check_of_requiring (h.database hKept), Option.map_eq_none_iff] at hCheck

/-- Settings are completed, or a key is missed in a section that stands there. -/
theorem decode_of_isShownBy (h : IsShownBy removed 2 s.toJson doc) (hSkim : doc.skim = none) :
    (missingKeys removed = [] ∧ decode doc = .ok (s.completed removed)) ∨
      ∃ key ∈ missingKeys removed, decode doc = .error (.missingField key) := by
  obtain ⟨value, docs, hShows, hValues, hDecode⟩ := exists_showsFields (rfl : decode = _) h hSkim rfl
    (by decide : ["server", "database", "search"].Nodup)
  have hSections : DecodesSections removed s value := by
    constructor
    · exact fun hKept => ServerSettings.decode_of_isShownBy (hValues ("server", s.server.toJson) (by simp) hKept)
        (hShows.skim ("server", s.server.toJson) (by simp) hKept)
    · exact fun hKept => DatabaseSettings.decode_of_isShownBy (hValues ("database", s.database.toJson) (by simp) hKept)
        (hShows.skim ("database", s.database.toJson) (by simp) hKept)
    · exact fun hKept => SearchSettings.decode_of_isShownBy (hValues ("search", s.search.toJson) (by simp) hKept)
        (hShows.skim ("search", s.search.toJson) (by simp) hKept)
  have hPasses := hShows.passes
  have hFails := hShows.fails
  generalize firstFault _ docs = first at hDecode hPasses hFails
  cases first with
  | none =>
    have hChecks := hPasses.mp rfl
    simp only [List.forall_mem_cons] at hChecks
    have hNone := hSections.missingKeys_eq_nil hChecks.1 hChecks.2.1
    refine .inl ⟨hNone, ?_⟩
    rw [completed_eq hNone]
    rw [missingKeys_eq_nil_iff, forall_completeSections] at hNone
    have hServer := fun hKept => (hSections.server hKept).trans (requiring_eq_ok (hNone.1 hKept))
    have hDatabase := fun hKept => (hSections.database hKept).trans (requiring_eq_ok (hNone.2 hKept))
    rw [hDecode, Option.elim_none, hShows.getD (v := s.server.toJson) (by simp) hServer,
      hShows.getD (v := s.database.toJson) (by simp) hDatabase,
      hShows.getD (v := s.search.toJson) (by simp) hSections.search]
    simp only [ite_isKept]
    rfl
  | some fault =>
    refine .inr ?_
    obtain ⟨member, hMember, hKept, hCheck⟩ := hFails fault rfl
    simp only [List.mem_cons, List.not_mem_nil, or_false] at hMember
    rcases hMember with rfl | rfl | rfl
    · obtain ⟨key, hKey, rfl⟩ :=
        exists_missingKey_of_check List.mem_cons_self hKept (hSections.server hKept) hCheck
      exact ⟨key, hKey, hDecode⟩
    · obtain ⟨key, hKey, rfl⟩ :=
        exists_missingKey_of_check (List.mem_cons_of_mem _ List.mem_cons_self) hKept (hSections.database hKept) hCheck
      exact ⟨key, hKey, hDecode⟩
    · change check SearchSettings.decode (value "search") = some fault at hCheck
      rw [check_eq_none (hSections.search hKept)] at hCheck
      cases hCheck

/-- What becomes of a file that holds settings in part. -/
structure CompletesFile (files : FileTree) (path : String) (removed : List String) (s : Settings) : Prop where
  completed : missingKeys removed = [] → load files path = .ok (s.completed removed, files)
  refused : missingKeys removed ≠ [] →
    ∃ key ∈ missingKeys removed, load files path = .error (.malformed (.missingField key))

theorem load_of_isItem {files : FileTree} {path text : String} (hContent : files.contentOf path = .ok text.toUTF8)
    (hText : Document.IsItem doc text.toList) :
    load files path = ((decode doc).mapError .malformed).map fun s => (s, files) := by
  rw [load_of_pathExists (pathExists_of_contentOf hContent), readFrom_of_contentOf hContent, ofFileText,
    Document.ofText_of_isItem hText]

theorem partial_file_is_completed {files : FileTree} {path text : String}
    (hContent : files.contentOf path = .ok text.toUTF8) (hText : Document.IsItem doc text.toList)
    (hShown : IsShownBy removed 2 s.toJson doc) : CompletesFile files path removed s := by
  have hLoad := load_of_isItem hContent hText
  obtain ⟨hNone, hDecode⟩ | ⟨key, hKey, hDecode⟩ := decode_of_isShownBy hShown hText.skim
  · rw [hDecode] at hLoad
    exact ⟨fun _ => hLoad, fun hSome => absurd hNone hSome⟩
  · rw [hDecode] at hLoad
    exact ⟨fun hNone => absurd hKey (by simp [hNone]), fun _ => ⟨key, hKey, hLoad⟩⟩

theorem isShownBy_serverSection (notes : List (String × Document)) (hServer : IsShownBy removed 1 s.server.toJson doc)
    (hNotes : ∀ note ∈ notes, note.1 ∉ ["server", "database", "search"]) (hKept : "server" ∉ removed)
    (hDatabase : "database" ∈ removed) (hSearch : "search" ∈ removed) :
    IsShownBy removed 2 s.toJson (.record (keyed (notes ++ [("server", doc)])) none) := by
  have hPerm : (notes ++ [("server", doc)]).Perm (keptMembers removed 2 [("server", s.server.toJson),
      ("database", s.database.toJson), ("search", s.search.toJson)] (fun _ => doc) ++ notes) := by
    simp [keptMembers, isKept, hKept, hDatabase, hSearch]
  refine .obj hPerm hNotes ?_
  simp only [List.forall_mem_cons, isKept_succ_iff]
  exact ⟨fun _ => hServer, fun h => absurd hDatabase h, fun h => absurd hSearch h, fun _ h => (by cases h)⟩

def localSettings : Settings := { default with server := ⟨"127.0.0.1", 8080⟩ }

/-- A server section behind a note, its keys in another order. -/
def noteFile : Json :=
  .obj [("note", .null), ("server", .obj [("port", .int 8080), ("host", .str "127.0.0.1")])]

theorem isWhole_noteFile : noteFile.IsWhole := by
  refine .obj ?_
  simp only [List.forall_mem_cons]
  refine ⟨.null, .obj ?_, fun _ h => (by cases h)⟩
  simp only [List.forall_mem_cons]
  exact ⟨isWhole_uint16 8080, .str _, fun _ h => (by cases h)⟩

theorem isShownBy_noteFile : IsShownBy ["database", "search"] 2 localSettings.toJson noteFile.document := by
  have hServer : IsShownBy ["database", "search"] 1 localSettings.server.toJson
      (document (.obj [("port", .int 8080), ("host", .str "127.0.0.1")])) := by
    refine @IsShownBy.obj _ _ _ (fun key => if key = "port" then document (.int 8080) else document (.str "127.0.0.1"))
      [("port", document (.int 8080)), ("host", document (.str "127.0.0.1"))] [] (.swap _ _ []) (by decide) ?_
    simp only [List.forall_mem_cons]
    exact ⟨fun _ => .str _ _, fun _ => .int _ _, fun _ h => (by cases h)⟩
  exact isShownBy_serverSection [("note", .null)] hServer (by decide) (by decide) (by decide) (by decide)

theorem sample_partial_file_is_completed :
    load (aloneInTree noteFile) fileName = .ok (localSettings, aloneInTree noteFile) :=
  (partial_file_is_completed (contentOf_aloneInTree noteFile) (isItem_pretty isWhole_noteFile)
    isShownBy_noteFile).completed (by decide)

def portFile : Json := .obj [("server", .obj [("port", .int 8080)])]

theorem isWhole_portFile : portFile.IsWhole :=
  .obj (List.forall_mem_singleton.mpr (.obj (List.forall_mem_singleton.mpr (isWhole_uint16 8080))))

theorem isShownBy_portFile : IsShownBy ["host", "database", "search"] 2 localSettings.toJson portFile.document := by
  have hServer : IsShownBy ["host", "database", "search"] 1 localSettings.server.toJson
      (document (.obj [("port", .int 8080)])) := by
    refine @IsShownBy.obj _ _ _ (fun _ => document (.int 8080)) [("port", document (.int 8080))] [] (.refl _)
      (by decide) ?_
    simp only [List.forall_mem_cons]
    exact ⟨fun h => absurd h (by decide), fun _ => .int _ _, fun _ h => (by cases h)⟩
  exact isShownBy_serverSection [] hServer (by decide) (by decide) (by decide) (by decide)

theorem server_section_is_not_completed :
    ¬ ∀ (files : FileTree) (path text : String) (removed : List String) (s : Settings) (doc : Document),
      files.contentOf path = .ok text.toUTF8 → Document.IsItem doc text.toList →
      IsShownBy removed 2 s.toJson doc → load files path = .ok (s.completed removed, files) := by
  intro h
  have hContent := contentOf_aloneInTree portFile
  have hText := isItem_pretty isWhole_portFile
  have hLoad := h _ _ _ _ _ _ hContent hText isShownBy_portFile
  rw [load_of_isItem hContent hText] at hLoad
  obtain ⟨hNone, -⟩ | ⟨key, -, hDecode⟩ := decode_of_isShownBy isShownBy_portFile hText.skim
  · exact absurd hNone (by decide)
  · rw [hDecode] at hLoad
    cases hLoad

end Settings

end QuoteSearch
