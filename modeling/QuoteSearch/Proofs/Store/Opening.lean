import QuoteSearch.Proofs.Files.Tree
import QuoteSearch.Store.File

/-! # Opening database files

A database is opened in a file that is one already, in one that is blank, or in a new file in a place that is
free. Whether it can be opened or not, no other file is changed, and none that has a content is.
-/

namespace QuoteSearch

open FileTree

namespace FileTree

/-- Nothing that is in a tree is missing in another one, and its directories are directories there. -/
structure Grows (t t' : FileTree) : Prop where
  directories : KeepsDirectories t t'
  there : ∀ l, t.nodeAt l ≠ none → t'.nodeAt l ≠ none

theorem Grows.refl (t : FileTree) : Grows t t := ⟨⟨fun _ h => h, rfl⟩, fun _ h => h⟩

theorem Grows.setNode {t : FileTree} {l : Location} (h : t.nodeAt l ≠ some .directory) (node : FileNode) :
    Grows t (t.setNode l node) := by
  have hRoot : l ≠ [] := by
    rintro rfl
    exact h rfl
  refine ⟨⟨fun other hOther => ?_, rfl⟩, fun other hOther => ?_⟩
  · have hNe : other ≠ l := by
      rintro rfl
      exact h hOther
    rw [nodeAt_setNode_of_ne hNe, hOther]
  · by_cases hHere : other = l
    · rw [hHere, nodeAt_setNode_self hRoot]
      exact Option.some_ne_none node
    · rwa [nodeAt_setNode_of_ne hHere]

end FileTree

/-- A path that is opened as it is, where a new file may be made. -/
def Opening.ofPath (path : String) : Opening := ⟨.file path, .create, none⟩

namespace DatabaseFile

variable {files : FileTree} {path name : String} {l next : Location} {mode : AccessMode}

theorem further_eq_some (h : further files l name = some next) : next = l.onward name := by
  simp only [further] at h
  split_ifs at h
  · exact (Option.some.inj h).symm
  · split at h
    · exact (Option.some.inj h).symm
    · exact (Option.some.inj h).symm
    · cases h

theorem foldlM_further_eq_some {names : List String} (h : names.foldlM (further files) l = some next) :
    next = names.foldl Location.onward l := by
  induction names generalizing l with
  | nil => exact (Option.some.inj h).symm
  | cons name rest ih =>
    rw [List.foldlM_cons] at h
    obtain ⟨middle, hStep, hRest⟩ := Option.bind_eq_some_iff.mp h
    rw [List.foldl_cons, ← further_eq_some hStep]
    exact ih hRest

/-- The file of a database is where the names of its path say. -/
theorem destination_of_locationOf (h : locationOf files path = some l) : files.destination path = l ∧ l ≠ [] := by
  simp only [locationOf] at h
  split_ifs at h
  obtain ⟨found, hFound, hPlace⟩ := Option.bind_eq_some_iff.mp h
  split_ifs at hPlace with hNowhere
  cases hPlace
  exact ⟨(foldlM_further_eq_some hFound).symm, fun hRoot => hNowhere (.inl hRoot)⟩

/-! ## What opening makes of the files -/

/-- A database can be opened at a location, with a name left for the files beside it. -/
inductive IsUsable (files : FileTree) (l : Location) : Prop where
  | database {content : ByteArray} (hFile : files.nodeAt l = some (.file content))
    (hBlank : isBlank content = false) (hHeader : hasHeader content = true)
    (hRoom : hasRoomBeside l logSuffix = true)
  | blank {content : ByteArray} (hFile : files.nodeAt l = some (.file content))
    (hBlank : isBlank content = true) (hRoom : hasRoomBeside l journalSuffix = true)
  | new (hNone : files.nodeAt l = none) (hAbove : files.nodeAt l.dropLast = some .directory)
    (hRoom : hasRoomBeside l journalSuffix = true)

/-- Where the files beside a database are while it is used. -/
def beside (l : Location) : List Location :=
  [journalSuffix, logSuffix, "-shm"].map fun suffix => l.dropLast ++ [l.getLastD "" ++ suffix]

/-- No database has been used at a location. -/
structure IsUnused (files : FileTree) (l : Location) : Prop where
  file : ∀ content, files.nodeAt l = some (.file content) → hasHeader content = false
  beside : ∀ other ∈ beside l, files.nodeAt other = none

/-- What an attempt to open the file at a location makes of the files. -/
inductive Opened (files : FileTree) (l : Location) : Attempt DatabaseFault FileTree Unit → Prop where
  | refused (fault : DatabaseFault) : Opened files l ⟨.error fault, files⟩
  | leftBlank (fault : DatabaseFault) (hNone : files.nodeAt l = none) :
    Opened files l ⟨.error fault, files.setNode l (.file ByteArray.empty)⟩
  | found {content : ByteArray} (hFile : files.nodeAt l = some (.file content))
    (hHeader : hasHeader content = true) : Opened files l ⟨.ok (), files⟩
  | started (hFree : ∀ node, files.nodeAt l = some node → ∃ content, node = .file content ∧ isBlank content = true) :
    Opened files l ⟨.ok (), files.setNode l (.file header)⟩

theorem opened_openAt (files : FileTree) (l : Location) (mode : AccessMode) : Opened files l (openAt files l mode) := by
  rw [openAt]
  split
  · exact .refused _
  · rename_i content hFile
    split_ifs with hBlank hHeader hRoom
    · rw [start]
      split_ifs
      · exact .refused _
      · refine .started fun node hNode => ?_
        cases hFile.symm.trans hNode
        exact ⟨content, rfl, hBlank⟩
      · exact .refused _
    · exact .refused _
    · exact .found hFile (by simpa using hHeader)
    · exact .refused _
  · rename_i hNone
    split_ifs with hMade
    · rw [start, setNode_setNode]
      split_ifs
      · exact .leftBlank _ hNone
      · refine .started fun node hNode => ?_
        cases hNone.symm.trans hNode
      · exact .leftBlank _ hNone
    · exact .refused _

theorem openAt_create_eq_ok_iff : (openAt files l .create).outcome = .ok () ↔ IsUsable files l := by
  constructor
  · intro h
    rw [openAt] at h
    split at h
    · cases h
    · rename_i content hFile
      split_ifs at h with hBlank hHeader hRoom
      · simp only [start, reduceCtorEq, if_false] at h
        split_ifs at h with hRoom
        exact .blank hFile hBlank hRoom
      · exact .database hFile (by simpa using hBlank) (by simpa using hHeader) hRoom
    · rename_i hNone
      split_ifs at h with hMade
      simp only [start, reduceCtorEq, if_false] at h
      split_ifs at h with hRoom
      exact .new hNone (isDirectory_iff.mp hMade.2) hRoom
  · intro h
    cases h with
    | database hFile hBlank hHeader hRoom => simp [openAt, hFile, hBlank, hHeader, hRoom]
    | blank hFile hBlank hRoom => simp [openAt, start, hFile, hBlank, hRoom]
    | new hNone hAbove hRoom => simp [openAt, start, hNone, isDirectory_iff.mpr hAbove, hRoom]

namespace Opened

variable {attempt : Attempt DatabaseFault FileTree Unit} (h : Opened files l attempt)
include h

theorem grows : Grows files attempt.state := by
  cases h with
  | refused => exact .refl files
  | leftBlank _ hNone => exact .setNode (by simp [hNone]) _
  | found => exact .refl files
  | started hFree =>
    refine .setNode (fun hDirectory => ?_) _
    obtain ⟨content, hFile, -⟩ := hFree _ hDirectory
    cases hFile

theorem nodeAt_of_ne {other : Location} (hOther : other ≠ l) : attempt.state.nodeAt other = files.nodeAt other := by
  cases h with
  | refused => rfl
  | leftBlank => exact nodeAt_setNode_of_ne hOther
  | found => rfl
  | started => exact nodeAt_setNode_of_ne hOther

/-- A file in which something else is kept is not opened. -/
theorem isBlank_or_hasHeader {content : ByteArray} (hFile : files.nodeAt l = some (.file content))
    (hOpen : attempt.outcome = .ok ()) : isBlank content = true ∨ hasHeader content = true := by
  cases h with
  | refused => cases hOpen
  | leftBlank => cases hOpen
  | found hFound hHeader =>
    cases hFile.symm.trans hFound
    exact .inr hHeader
  | started hFree =>
    obtain ⟨blank, hSame, hBlank⟩ := hFree _ hFile
    cases hSame
    exact .inl hBlank

theorem exists_header (hRoot : l ≠ []) (hOpen : attempt.outcome = .ok ()) :
    ∃ content, attempt.state.nodeAt l = some (.file content) ∧ hasHeader content = true := by
  cases h with
  | refused => cases hOpen
  | leftBlank => cases hOpen
  | found hFile hHeader => exact ⟨_, hFile, hHeader⟩
  | started => exact ⟨header, nodeAt_setNode_self hRoot, by decide +kernel⟩

end Opened

theorem grows_openFile (files : FileTree) (o : Opening) : Grows files (openFile files o).state := by
  rw [openFile]
  split
  · exact .refl files
  · split
    · exact .refl files
    · split
      · rename_i l _
        exact (opened_openAt files l o.mode).grows
      · exact .refl files

/-! ## A path with a file -/

section File

variable (hEmpty : path ≠ "") (hMemory : path ≠ StoreAddress.memoryName)
include hEmpty hMemory

theorem openFile_eq : openFile files (.ofPath path) = match locationOf files path with
    | some l => openAt files l .create
    | none => ⟨.error .cannotOpen, files⟩ := by
  have hLasting : (Opening.ofPath path).address.isLasting = true := by
    simp [Opening.ofPath, Opening.address, StoreAddress.isLasting, hEmpty, hMemory]
  exact if_neg (by rw [hLasting]; exact Bool.false_ne_true)

theorem openFile_eq_ok_iff : (openFile files (.ofPath path)).outcome = .ok () ↔
    ∃ l, locationOf files path = some l ∧ IsUsable files l := by
  rw [openFile_eq hEmpty hMemory]
  cases hPlace : locationOf files path with
  | none => simp
  | some l => simp [openAt_create_eq_ok_iff]

theorem opened_openFile (hOpen : (openFile files (.ofPath path)).outcome = .ok ()) :
    files.destination path ≠ [] ∧
      Opened files (files.destination path) (openFile files (.ofPath path)) := by
  obtain ⟨l, hPlace, -⟩ := (openFile_eq_ok_iff hEmpty hMemory).mp hOpen
  obtain ⟨rfl, hRoot⟩ := destination_of_locationOf hPlace
  rw [openFile_eq hEmpty hMemory, hPlace]
  exact ⟨hRoot, opened_openAt files _ .create⟩

end File

end DatabaseFile

end QuoteSearch
