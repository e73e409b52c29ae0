import QuoteSearch.Launch
import QuoteSearch.Proofs.Settings.File
import QuoteSearch.Proofs.Store.Name
import QuoteSearch.Proofs.Store.Opening
import QuoteSearch.Proofs.Store.Run

/-! # The database of a launch

A launch makes the data directory and opens the database in it. Which file that is follows from the address that is
made of the settings, and it is the one that they name exactly if its path can stand in an address as it is and is
not taken for a URI then.
-/

namespace QuoteSearch

open FileTree StoreAddress DatabaseFile

/-! ## The path of the database -/

/-- A path that leads somewhere from the directory it is taken in. -/
structure IsRelative (path : String) : Prop where
  ne_empty : path ≠ ""
  head : path.toList.head? ≠ some '/'

namespace DatabaseSettings

variable {s : DatabaseSettings}

def path (s : DatabaseSettings) : String := joinPath s.directory s.file

theorem address_eq (s : DatabaseSettings) : s.address = addressOf s.path.toList := by
  rw [address, addressOf, String.ofList_toList, path]

structure IsRelative (s : DatabaseSettings) : Prop where
  directory : QuoteSearch.IsRelative s.directory
  file : QuoteSearch.IsRelative s.file

namespace IsRelative

variable (h : s.IsRelative)
include h

theorem path_eq : ∃ rest, s.path.toList = s.directory.toList ++ rest ∧ '/' ∈ s.path.toList := by
  rw [path, joinPath, if_neg (not_or.mpr ⟨h.file.head, h.directory.ne_empty⟩)]
  split
  · rename_i hSlash
    refine ⟨s.file.toList, String.toList_append, ?_⟩
    rw [String.toList_append]
    exact List.mem_append_left _ (List.mem_of_getLast? hSlash)
  · refine ⟨'/' :: s.file.toList, ?_, ?_⟩ <;> simp [String.toList_append]

theorem head_path : s.path.toList.head? ≠ some '/' := by
  obtain ⟨rest, hPath, -⟩ := h.path_eq
  have hDirectory : s.directory.toList ≠ [] := by simpa using h.directory.ne_empty
  rw [hPath, List.head?_append_of_ne_nil _ hDirectory]
  exact h.directory.head

theorem path_ne_memory : s.path ≠ memoryName := by
  obtain ⟨-, -, hSlash⟩ := h.path_eq
  intro hMemory
  rw [hMemory] at hSlash
  exact absurd hSlash (by decide)

theorem path_ne_empty : s.path ≠ "" := by
  obtain ⟨-, -, hSlash⟩ := h.path_eq
  intro hEmpty
  rw [hEmpty] at hSlash
  exact absurd hSlash (by decide)

theorem parse_address (hLiteral : IsLiteral s.path.toList) : parse s.address = .ok ⟨.file s.path, false, none⟩ := by
  have hMemory : s.path.toList ≠ memoryName.toList := mt String.toList_inj.mp h.path_ne_memory
  rw [address_eq, parse_addressOf h.head_path hMemory hLiteral, String.ofList_toList]

theorem parse_address_iff :
    (∃ a, parse s.address = .ok a ∧ a.place = .file s.path) ↔ IsLiteral s.path.toList := by
  constructor
  · rintro ⟨a, hParse, hPlace⟩
    rw [address_eq] at hParse
    exact isLiteral_of_parse h.head_path hParse (by rw [hPlace, String.ofList_toList])
  · intro hLiteral
    exact ⟨_, h.parse_address hLiteral, rfl⟩

theorem place_of_parse {a : StoreAddress} (hParse : parse s.address = .ok a) : a.place = .memory ∨
    ∃ decoded, Text.percentDecodeText (readPart s.path.toList) = .ok decoded ∧
      a.place = .file (String.ofList decoded) := by
  rw [address_eq] at hParse
  exact StoreAddress.place_of_parse h.head_path hParse

theorem ofText_address (hStands : StandsForFile s.path.toList) :
    Opening.ofText s.address = .ok (.ofPath s.path) := by
  rw [Opening.ofText, h.parse_address hStands.literal]
  refine bind_eq_of_ok rfl ?_
  rw [Opening.ofAddress_of_standsForFile hStands]
  rfl

/-- No longer path than the one of the settings is opened, and it is opened only if it stands for a file. -/
theorem place_eq_file_iff {o : Opening} (hOpening : Opening.ofText s.address = .ok o) :
    o.address.place = .file s.path ↔ StandsForFile s.path.toList := by
  constructor
  · intro hPlace
    obtain ⟨a, hParse, hAddress⟩ := Opening.ofText_eq_ok hOpening
    obtain ⟨name, hName, hLonger | ⟨rfl, hPlain⟩⟩ := Opening.path_of_ofAddress hAddress hPlace
    · obtain hMemory | ⟨decoded, hDecoded, hFile⟩ := h.place_of_parse hParse
      · cases hName.symm.trans hMemory
      · cases hName.symm.trans hFile
        -- Decoding adds no bytes, so no name that is read has more of them than the path.
        rw [String.toList_ofList] at hLonger
        have hRead := (Text.length_bytesOf_le_of_percentDecodeText hDecoded).1
        have hPart := Opening.length_bytesOf_le_of_sublist (readPart_sublist s.path.toList)
        omega
    · have hLiteral := h.parse_address_iff.mp ⟨a, hParse, hName⟩
      cases (h.parse_address hLiteral).symm.trans hParse
      obtain ⟨hUri, hZero⟩ := hPlain rfl
      exact ⟨hLiteral, hUri, hZero⟩
  · intro hStands
    cases (h.ofText_address hStands).symm.trans hOpening
    rfl

end IsRelative

end DatabaseSettings

namespace Launch

variable {files files' made : FileTree} {directory path address : String} {settings s : Settings} {store : Store}
  {draw : List QuoteRow → List QuoteRow} {r : Running}

/-! ## The data directory -/

/-- The files with a directory, which is made together with those above it if nothing is at its path. -/
def withDirectory (files : FileTree) (directory : String) : FileTree × Except FileFault Unit :=
  if files.pathExists directory then (files, .ok ()) else files.makeDirectories directory

/-- Something is at the path of a directory, and if nothing was before, it is a directory. -/
def HasDirectory (before : FileTree) (directory : String) (after : FileTree) : Prop :=
  ∃ l, after.locate directory = .ok l ∧ after.nodeAt l ≠ none ∧
    (before.pathExists directory = false → after.nodeAt l = some .directory)

theorem HasDirectory.grows (h : HasDirectory files directory made) (hGrows : Grows made files') :
    HasDirectory files directory files' := by
  obtain ⟨l, hLocate, hNode, hMade⟩ := h
  exact ⟨l, hGrows.directories.locate hLocate, hGrows.there l hNode,
    fun hFree => hGrows.directories.directory l (hMade hFree)⟩

theorem addsDirectories_withDirectory (files : FileTree) (directory : String) :
    AddsDirectories files (withDirectory files directory).1 := by
  rw [withDirectory]
  split
  · exact .refl files
  · exact addsDirectories_makeDirectories files directory

theorem hasDirectory_withDirectory (hWorking : files.nodeAt files.workingDirectory ≠ none) (hDirectory : directory ≠ "")
    (h : (withDirectory files directory).2 = .ok ()) :
    HasDirectory files directory (withDirectory files directory).1 := by
  rw [withDirectory] at h ⊢
  split at h
  · rename_i hExists
    obtain ⟨l, hLocate, hNode⟩ := pathExists_iff.mp hExists
    rw [if_pos hExists]
    exact ⟨l, hLocate, hNode, fun hFree => absurd hExists (by simp [hFree])⟩
  · rename_i hFree
    rw [if_neg hFree]
    obtain ⟨l, hLocate, hNode⟩ := makeDirectories_eq_ok hWorking hDirectory h
    exact ⟨l, hLocate, by rw [hNode]; exact Option.some_ne_none _, fun _ => hNode⟩

/-! ## The store -/

theorem grows_openAt (files : FileTree) (address : String) : Grows files (Store.openAt files address).state := by
  rw [Store.openAt]
  split
  · exact .refl files
  · rename_i o _
    simp only []
    split <;> exact grows_openFile files o

/-- A store is opened at the address that its own is read as. -/
theorem openAt_eq_ok (h : (Store.openAt files address).outcome = .ok store) :
    ∃ o, Opening.ofText address = .ok o ∧ store = ⟨o.address, true, none⟩ := by
  rw [Store.openAt] at h
  split at h
  · cases h
  · rename_i o hOpening
    simp only [] at h
    split at h <;> cases h
    exact ⟨o, hOpening, rfl⟩

theorem openAt_eq {o : Opening} (h : Opening.ofText address = .ok o) :
    Store.openAt files address = ⟨((openFile files o).outcome.mapError .database).map fun _ =>
      ⟨o.address, true, none⟩, (openFile files o).state⟩ := by
  rw [Store.openAt, h]
  cases hOutcome : (openFile files o).outcome <;> simp only [hOutcome] <;> rfl

theorem prepare_eq_ok (h : prepare settings store draw = .ok r) : r.store.address = store.address := by
  rw [prepare] at h
  split at h
  · cases h
  · rename_i ready hInit
    obtain ⟨-, -, rfl⟩ := Store.init_eq_ok_iff.mp hInit
    split at h
    · cases h
    · split at h <;> cases h
      rfl

theorem prepare_ne_directory (settings : Settings) (store : Store) (draw : List QuoteRow → List QuoteRow)
    (fault : FileFault) : prepare settings store draw ≠ .error (.directory fault) := by
  rw [prepare]
  split
  · nofun
  · split
    · nofun
    · split <;> nofun

theorem prepare_eq_store {fault : StoreFault} (h : prepare settings store draw = .error (.store fault)) :
    store.init = .error fault := by
  rw [prepare] at h
  split at h
  · rename_i hInit
    cases h
    exact hInit
  · split at h
    · cases h
    · split at h <;> cases h

theorem files_openStore : (openStore settings address draw files).files = (Store.openAt files address).state := by
  rw [openStore]
  split <;> rfl

theorem outcome_openStore : (openStore settings address draw files).outcome =
    ((Store.openAt files address).outcome.mapError .store).bind fun store => prepare settings store draw := by
  rw [openStore]
  cases (Store.openAt files address).outcome <;> rfl

theorem openStore_ne_directory (fault : FileFault) :
    (openStore settings address draw files).outcome ≠ .error (.directory fault) := by
  rw [outcome_openStore]
  cases (Store.openAt files address).outcome with
  | error reason => nofun
  | ok store => exact prepare_ne_directory settings store draw fault

theorem openStore_eq_ok (h : (openStore settings address draw files).outcome = .ok r) :
    ∃ o, Opening.ofText address = .ok o ∧ r.store.address = o.address := by
  rw [outcome_openStore] at h
  obtain ⟨store, hOpened, hPrepared⟩ := exists_of_bind_eq_ok h
  obtain ⟨o, hOpening, rfl⟩ := openAt_eq_ok (eq_ok_of_mapError_eq_ok hOpened)
  exact ⟨o, hOpening, prepare_eq_ok hPrepared⟩

/-- A store that may be written fails only as its file cannot be opened. -/
theorem openStore_eq_store_iff (hOpening : Opening.ofText address = .ok (.ofPath path))
    {fault : StoreFault} :
    (openStore settings address draw files).outcome = .error (.store fault) ↔
      ∃ cause, (openFile files (.ofPath path)).outcome = .error cause ∧ fault = .database cause := by
  rw [outcome_openStore, openAt_eq hOpening]
  cases (openFile files (.ofPath path)).outcome with
  | error cause =>
    constructor
    · rintro ⟨⟩
      exact ⟨cause, rfl, rfl⟩
    · rintro ⟨_, ⟨⟩, rfl⟩
      rfl
  | ok opened =>
    -- The tables of such a store are always made.
    refine iff_of_false (fun hFault => ?_) (fun ⟨_, hFault, _⟩ => by cases hFault)
    have hReady : Store.init ⟨⟨.file path, false, none⟩, true, none⟩ =
        .ok ⟨⟨.file path, false, none⟩, true, some .empty⟩ := by rfl
    cases hReady.symm.trans (prepare_eq_store hFault)

/-! ## The settings -/

theorem run_of_load (h : Settings.load files Settings.fileName = .ok (s, files')) :
    run none draw files = match (withDirectory files' s.database.directory).2 with
      | .error fault => ⟨.error (.directory fault), (withDirectory files' s.database.directory).1⟩
      | .ok () => openStore s s.database.address draw (withDirectory files' s.database.directory).1 := by
  obtain ⟨hLoaded, rfl⟩ := Attempt.passed_eq_ok_iff.mp h
  rw [run]
  simp only [hLoaded]
  rfl

theorem nodeAt_workingDirectory_of_load (h : Settings.load files Settings.fileName = .ok (s, files')) :
    files'.nodeAt files'.workingDirectory = some .directory := by
  have hBegin {l : Location} (hLocate : files.locate Settings.fileName = .ok l) :
      files.nodeAt files.workingDirectory = some .directory := nodeAt_startOf hLocate (by decide)
  cases hExists : files.pathExists Settings.fileName with
  | true =>
    obtain ⟨l, hLocate, -⟩ := pathExists_iff.mp hExists
    rw [Settings.load_of_pathExists hExists] at h
    obtain ⟨read, -, hSame⟩ := exists_of_map_eq_ok h
    cases hSame
    exact hBegin hLocate
  | false =>
    obtain ⟨l, hTakes, rfl⟩ := Settings.load_eq_ok_of_pathExists_eq_false hExists h
    exact (hTakes.keepsDirectories _).directory _ (hBegin hTakes.located)

/-! ## The file that is opened -/

/-- A database is in the file at a path, where nothing else was kept before. Apart from it, from what is beside it
while it is used and from directories there is nothing new, and what was there stays. -/
structure HasDatabase (before : FileTree) (path : String) (after : FileTree) : Prop where
  leads : ∀ l, after.locate path = .ok l → l = after.destination path
  content : ∃ content, after.nodeAt (after.destination path) = some (.file content) ∧ hasHeader content = true
  free : (∀ l ∈ beside (after.destination path), before.nodeAt l = none) →
    ∀ content, before.nodeAt (after.destination path) = some (.file content) →
      isBlank content = true ∨ hasHeader content = true
  others : ∀ l node, l ≠ after.destination path → l ∉ beside (after.destination path) →
    before.nodeAt l = some node → after.nodeAt l = some node
  added : ∀ l node, l ≠ after.destination path → l ∉ beside (after.destination path) →
    after.nodeAt l = some node → before.nodeAt l = some node ∨ node = .directory

/-- What a launch makes of the database that the settings name. -/
structure OpensDatabase (s : Settings) (files : FileTree) (launch : Launch) : Prop where
  address_iff : (∃ a, parse s.database.address = .ok a ∧ a.place = .file s.database.path) ↔
    IsLiteral s.database.path.toList
  directoryFault_iff : ∀ fault, launch.outcome = .error (.directory fault) ↔
    (withDirectory files s.database.directory).2 = .error fault
  directory : (withDirectory files s.database.directory).2 = .ok () →
    HasDirectory files s.database.directory launch.files
  -- What comes of a database that is there already depends on more than how it begins.
  storeFault_iff : StandsForFile s.database.path.toList →
    (∀ l, locationOf (withDirectory files s.database.directory).1 s.database.path = some l →
      IsUnused (withDirectory files s.database.directory).1 l) →
    ((∃ fault, launch.outcome = .error (.store fault)) ↔
      (withDirectory files s.database.directory).2 = .ok () ∧
        ¬ ∃ l, locationOf (withDirectory files s.database.directory).1 s.database.path = some l ∧
          IsUsable (withDirectory files s.database.directory).1 l)
  database : StandsForFile s.database.path.toList → (∀ fault, launch.outcome ≠ .error (.directory fault)) →
    (∀ fault, launch.outcome ≠ .error (.store fault)) → HasDatabase files s.database.path launch.files
  /-- Whatever the path is, it is read without schemes in front of it, up to a question mark, and decoded. What
  is read is a name, which may turn out to be a URI. -/
  place : ∀ r, launch.outcome = .ok r → ∃ a o, parse s.database.address = .ok a ∧ Opening.ofAddress a = .ok o ∧
    r.store.address = o.address ∧ (a.place = .memory ∨
      ∃ decoded, Text.percentDecodeText (readPart s.database.path.toList) = .ok decoded ∧
        a.place = .file (String.ofList decoded))
  place_iff : ∀ r, launch.outcome = .ok r →
    (r.store.address.place = .file s.database.path ↔ StandsForFile s.database.path.toList)

theorem hasDatabase_of_openFile (hEmpty : path ≠ "") (hMemory : path ≠ memoryName) (hAdds : AddsDirectories files made)
    (hOpen : (openFile made (.ofPath path)).outcome = .ok ()) :
    HasDatabase files path (openFile made (.ofPath path)).state := by
  obtain ⟨hRoot, hOpened⟩ := opened_openFile hEmpty hMemory hOpen
  have hSame : (openFile made (.ofPath path)).state.destination path = made.destination path := by
    rw [destination, startOf, hOpened.grows.directories.workingDirectory]
    rfl
  refine ⟨fun l hLocate => (destination_of_locate hLocate).symm, ?_, ?_, ?_, ?_⟩
  all_goals rw [hSame]
  · exact hOpened.exists_header hRoot hOpen
  · intro _ content hFile
    exact hOpened.isBlank_or_hasHeader (hAdds.keeps.node _ _ hFile) hOpen
  · intro l node hOther _ hNode
    rw [hOpened.nodeAt_of_ne hOther]
    exact hAdds.keeps.node l node hNode
  · intro l node hOther _ hNode
    rw [hOpened.nodeAt_of_ne hOther] at hNode
    exact hAdds.added l node hNode

theorem opensDatabase_of_fault {fault : FileFault} (hRelative : s.database.IsRelative)
    (hFault : (withDirectory files s.database.directory).2 = .error fault) :
    OpensDatabase s files ⟨.error (.directory fault), made⟩ where
  address_iff := hRelative.parse_address_iff
  directoryFault_iff other := by
    rw [hFault]
    constructor <;> rintro ⟨⟩ <;> rfl
  directory hMade := by
    rw [hFault] at hMade
    cases hMade
  storeFault_iff _ _ := by
    rw [hFault]
    exact iff_of_false nofun nofun
  database _ hNone := absurd rfl (hNone fault)
  place _ hRun := by cases hRun
  place_iff _ hRun := by cases hRun

theorem opensDatabase_openStore (hRelative : s.database.IsRelative)
    (hMade : (withDirectory files s.database.directory).2 = .ok ())
    (hDirectory : HasDirectory files s.database.directory (withDirectory files s.database.directory).1)
    (draw : List QuoteRow → List QuoteRow) :
    OpensDatabase s files (openStore s s.database.address draw (withDirectory files s.database.directory).1) where
  address_iff := hRelative.parse_address_iff
  directoryFault_iff fault := by
    rw [hMade]
    exact iff_of_false (openStore_ne_directory fault) nofun
  directory _ := by
    rw [files_openStore]
    exact hDirectory.grows (grows_openAt _ _)
  storeFault_iff hStands _ := by
    rw [← openFile_eq_ok_iff hRelative.path_ne_empty hRelative.path_ne_memory, and_iff_right hMade]
    simp only [openStore_eq_store_iff (hRelative.ofText_address hStands)]
    cases (openFile (withDirectory files s.database.directory).1 (.ofPath s.database.path)).outcome <;> simp
  database hStands _ hNone := by
    rw [files_openStore, openAt_eq (hRelative.ofText_address hStands)]
    refine hasDatabase_of_openFile hRelative.path_ne_empty hRelative.path_ne_memory
      (addsDirectories_withDirectory files s.database.directory) ?_
    cases hOutcome :
        (openFile (withDirectory files s.database.directory).1 (.ofPath s.database.path)).outcome with
    | ok => rfl
    | error cause =>
      exact absurd ((openStore_eq_store_iff (hRelative.ofText_address hStands)).mpr ⟨cause, hOutcome, rfl⟩) (hNone _)
  place r hRun := by
    obtain ⟨o, hOpening, hAddress⟩ := openStore_eq_ok hRun
    obtain ⟨a, hParse, hRead⟩ := Opening.ofText_eq_ok hOpening
    exact ⟨a, o, hParse, hRead, hAddress, hRelative.place_of_parse hParse⟩
  place_iff r hRun := by
    obtain ⟨o, hOpening, hAddress⟩ := openStore_eq_ok hRun
    rw [hAddress, hRelative.place_eq_file_iff hOpening]

def defaultFiles : FileTree := Settings.aloneInTree Settings.default.toJson

theorem load_defaultFiles : Settings.load defaultFiles Settings.fileName = .ok (.default, defaultFiles) :=
  Settings.load_of_contentOf (Settings.contentOf_aloneInTree Settings.default.toJson)

/-- Settings with a file name that holds a percent sign in front of two digits. -/
def encodedName : Settings := { Settings.default with database := ⟨"data", "my%20quotes.db"⟩ }

def encodedNameFiles : FileTree := Settings.aloneInTree encodedName.toJson

end Launch

end QuoteSearch
