import QuoteSearch.Proofs.Files.Tree
import QuoteSearch.Proofs.Settings.Json

/-! # The settings file

Settings that were saved are loaded as they were, and loading changes no file: it may only make one
where there was none, and whoever loads from it later finds the same settings.
-/

namespace QuoteSearch

open FileTree

namespace Settings

variable {files files' : FileTree} {path : String} {s : Settings}

/-- The files after a load, whether it failed or not. -/
def filesAfterLoad (files : FileTree) (path : String) : FileTree := (loadFrom files path).state

/-- The files after loads from some paths. -/
def filesAfterLoads (files : FileTree) (paths : List String) : FileTree := paths.foldl filesAfterLoad files

structure KeepsSettings (files : FileTree) (path : String) : Prop where
  saves : ∀ l, files.Takes path l → ∀ s, ∃ files', save files path s = .ok files'
  loads : ∀ s files', save files path s = .ok files' → load files' path = .ok (s, files')
  unchanged : files.pathExists path = true → filesAfterLoad files path = files
  others : ∀ paths other content, files.contentOf other = .ok content →
    (filesAfterLoads files paths).contentOf other = .ok content
  created : files.pathExists path = false → ∀ l, files.Takes path l →
    ∃ files', load files path = .ok (default, files') ∧
      files'.contentOf path = .ok default.fileText.toUTF8 ∧
      ∀ paths, load (filesAfterLoads files' paths) path = .ok (default, filesAfterLoads files' paths) ∧
        (filesAfterLoads files' paths).contentOf path = .ok default.fileText.toUTF8

theorem save_eq_ok_iff : save files path s = .ok files' ↔
    ∃ l, files.Takes path l ∧ files' = files.setNode l (.file s.fileText.toUTF8) := by
  rw [← put_eq_ok_iff, save, Attempt.map_snd_passed_eq_ok_iff, writeTo]
  cases files.put path s.fileText.toUTF8 <;> simp

theorem fromUTF8?_toUTF8 (text : String) : String.fromUTF8? text.toUTF8 = some text := by
  rw [String.toUTF8_eq_toByteArray, String.fromUTF8?, dif_pos text.isValidUTF8]
  rfl

theorem readFrom_of_contentOf {text : String} (h : files.contentOf path = .ok text.toUTF8) :
    readFrom files path = ofFileText text := by
  rw [readFrom, h]
  refine bind_eq_of_ok rfl ?_
  rw [fromUTF8?_toUTF8]

theorem load_of_pathExists (h : files.pathExists path = true) :
    load files path = (readFrom files path).map fun s => (s, files) := by
  rw [load, loadFrom, if_pos h, Attempt.passed]

theorem load_of_contentOf (h : files.contentOf path = .ok s.fileText.toUTF8) :
    load files path = .ok (s, files) := by
  rw [load_of_pathExists (pathExists_of_contentOf h), readFrom_of_contentOf h, ofFileText_fileText, Except.map]

/-- Where no file is, the default settings are saved and loaded. -/
theorem load_of_pathExists_eq_false (hAbsent : files.pathExists path = false)
    (hSave : save files path default = .ok files') :
    load files path = .ok (default, files') := by
  obtain ⟨hWritten, rfl⟩ := Attempt.map_snd_passed_eq_ok_iff.mp hSave
  have hLoaded : loadFrom files path = ⟨.ok default, (writeTo files path default).state⟩ := by
    simp only [loadFrom, hAbsent, Bool.false_eq_true, if_false, hWritten, Except.map]
  rw [load, hLoaded, Attempt.passed_eq_ok_iff]
  exact ⟨rfl, rfl⟩

theorem load_eq_ok_of_pathExists_eq_false (hAbsent : files.pathExists path = false)
    (h : load files path = .ok (s, files')) :
    ∃ l, files.Takes path l ∧ files' = files.setNode l (.file default.fileText.toUTF8) := by
  obtain ⟨hLoaded, rfl⟩ := Attempt.passed_eq_ok_iff.mp h
  simp only [loadFrom, hAbsent, Bool.false_eq_true, if_false] at hLoaded ⊢
  obtain ⟨⟨⟩, hWritten, -⟩ := exists_of_map_eq_ok hLoaded
  exact save_eq_ok_iff.mp (Attempt.map_snd_passed_eq_ok_iff.mpr ⟨hWritten, rfl⟩)

theorem load_of_save (h : save files path s = .ok files') : load files' path = .ok (s, files') := by
  obtain ⟨l, hTakes, rfl⟩ := save_eq_ok_iff.mp h
  exact load_of_contentOf (hTakes.contentOf_setNode _)

theorem filesAfterLoad_of_pathExists (h : files.pathExists path = true) : filesAfterLoad files path = files := by
  rw [filesAfterLoad, loadFrom, if_pos h]

theorem nodeAt_eq_none {l : Location} (h : files.pathExists path = false) (hLocate : files.locate path = .ok l) :
    files.nodeAt l = none := by
  rw [pathExists, hLocate] at h
  simpa using h

/-- A load makes at most one file, where nothing was. -/
theorem keeps_filesAfterLoad (files : FileTree) (path : String) : Keeps files (filesAfterLoad files path) := by
  cases hExists : files.pathExists path with
  | true =>
    rw [filesAfterLoad_of_pathExists hExists]
    exact .refl files
  | false =>
    simp only [filesAfterLoad, loadFrom, hExists, Bool.false_eq_true, if_false, writeTo]
    cases hPut : files.put path default.fileText.toUTF8 with
    | error fault => exact .refl files
    | ok files' =>
      obtain ⟨l, hTakes, rfl⟩ := put_eq_ok_iff.mp hPut
      exact .setNode (nodeAt_eq_none hExists hTakes.located) _

theorem keeps_filesAfterLoads (files : FileTree) (paths : List String) :
    Keeps files (filesAfterLoads files paths) := by
  induction paths generalizing files with
  | nil => exact .refl files
  | cons path rest ih => exact (keeps_filesAfterLoad files path).trans (ih (filesAfterLoad files path))

theorem saved_settings_load_back (files : FileTree) (path : String) : KeepsSettings files path where
  saves l hTakes s := ⟨_, save_eq_ok_iff.mpr ⟨l, hTakes, rfl⟩⟩
  loads _ _ hSave := load_of_save hSave
  unchanged := filesAfterLoad_of_pathExists
  others paths _ _ hContent := (keeps_filesAfterLoads files paths).contentOf hContent
  created hAbsent l hTakes := by
    have hContent := hTakes.contentOf_setNode default.fileText.toUTF8
    have hSave : save files path default = .ok (files.setNode l (.file default.fileText.toUTF8)) :=
      save_eq_ok_iff.mpr ⟨l, hTakes, rfl⟩
    refine ⟨_, load_of_pathExists_eq_false hAbsent hSave, hContent, fun paths => ?_⟩
    · have hLater := (keeps_filesAfterLoads _ paths).contentOf hContent
      exact ⟨load_of_contentOf hLater, hLater⟩

/-- The settings file of a tree with no other files. -/
def aloneInTree (file : Json) : FileTree := ⟨[([fileName], .file file.pretty.toUTF8)], []⟩

theorem contentOf_aloneInTree (file : Json) : (aloneInTree file).contentOf fileName = .ok file.pretty.toUTF8 :=
  contentOf_eq_ok_iff.mpr ⟨[fileName], by rfl, by rfl⟩

end Settings

end QuoteSearch
