import QuoteSearch.Files.Tree
import QuoteSearch.Proofs.Basic

/-! # Writing into a tree of files

A file is written where a file is already, or into a directory where nothing is. No directory is lost
by that, so every path leads where it led before, and what was written is found at its path.
-/

namespace QuoteSearch.FileTree

variable {t t' : FileTree} {l other next : Location} {path name : String} {content : ByteArray} {node : FileNode}

theorem nodeAt_setNode_self (h : l ≠ []) : (t.setNode l node).nodeAt l = some node := by
  rw [nodeAt, if_neg h, setNode, List.lookup_cons_self]

theorem lookup_filter_ne (h : other ≠ l) (nodes : List (Location × FileNode)) :
    (nodes.filter fun entry => entry.1 != l).lookup other = nodes.lookup other := by
  induction nodes with
  | nil => rfl
  | cons entry rest ih =>
    by_cases hHere : entry.1 = l
    · have hOther : (other == entry.1) = false := by simpa [hHere] using h
      rw [List.filter_cons_of_neg (by simp [hHere]), ih, List.lookup_cons, hOther]
    · rw [List.filter_cons_of_pos (by simpa using hHere), List.lookup_cons, List.lookup_cons, ih]

theorem nodeAt_setNode_of_ne (h : other ≠ l) : (t.setNode l node).nodeAt other = t.nodeAt other := by
  have hOther : (other == l) = false := by simpa using h
  rw [nodeAt, nodeAt, setNode, List.lookup_cons, hOther]
  simp only [lookup_filter_ne h]

theorem setNode_setNode (t : FileTree) (l : Location) (first second : FileNode) :
    (t.setNode l first).setNode l second = t.setNode l second := by
  simp [setNode, List.filter_filter]

theorem isDirectory_iff : t.isDirectory l = true ↔ t.nodeAt l = some .directory := by
  rw [isDirectory]
  split
  · rename_i hNode
    exact iff_of_true rfl hNode
  · rename_i hOther
    exact iff_of_false Bool.false_ne_true hOther

/-! ## Where paths lead -/

theorem stepTo_eq_ok (h : t.stepTo l name = .ok next) : t.nodeAt l = some .directory := by
  rw [stepTo] at h
  split at h
  · cases h
  · cases h
  · assumption

theorem nodeAt_startOf (h : t.locate path = .ok l) (hNames : names path ≠ []) :
    t.nodeAt (t.startOf path) = some .directory := by
  rw [locate] at h
  split_ifs at h
  cases hParts : names path with
  | nil => exact absurd hParts hNames
  | cons name rest =>
    rw [hParts] at h
    obtain ⟨next, hStep, -⟩ := exists_of_bind_eq_ok h
    exact stepTo_eq_ok hStep

theorem pathExists_iff : t.pathExists path = true ↔ ∃ l, t.locate path = .ok l ∧ t.nodeAt l ≠ none := by
  rw [pathExists]
  constructor
  · intro h
    split at h
    · rename_i l hLocate
      exact ⟨l, hLocate, Option.ne_none_iff_isSome.mpr h⟩
    · cases h
  · rintro ⟨l, hLocate, hNode⟩
    rw [hLocate]
    exact Option.ne_none_iff_isSome.mp hNode

theorem stepTo_eq_ok_onward (hName : name ≠ "") (h : t.stepTo l name = .ok next) : next = l.onward name := by
  rw [stepTo, stepTo_eq_ok h] at h
  simp only [Location.onward, hName, false_or]
  split_ifs at h ⊢ <;> exact (Except.ok.inj h).symm

theorem walk_eq_ok {names : List String} (hNames : "" ∉ names) (h : t.walk l names = .ok next) :
    next = names.foldl Location.onward l := by
  induction names generalizing l with
  | nil => exact (Except.ok.inj h).symm
  | cons name rest ih =>
    obtain ⟨middle, hStep, hRest⟩ := exists_of_bind_eq_ok h
    have hName : name ≠ "" := fun hEmpty => hNames (hEmpty ▸ List.mem_cons_self)
    rw [List.foldl_cons, ← stepTo_eq_ok_onward hName hStep]
    exact ih (fun hMem => hNames (List.mem_cons_of_mem name hMem)) hRest

/-- Names that stay lead nowhere. -/
theorem foldl_onward_filter (l : Location) (names : List String) :
    (names.filter fun name => name != "" && name != ".").foldl Location.onward l =
      names.foldl Location.onward l := by
  induction names generalizing l with
  | nil => rfl
  | cons name rest ih =>
    by_cases hStays : name = "" ∨ name = "."
    · have hHere : l.onward name = l := if_pos hStays
      rw [List.filter_cons_of_neg (by simp only [bne_iff_ne, Bool.and_eq_true]; tauto), List.foldl_cons, hHere, ih]
    · rw [List.filter_cons_of_pos (by simp only [bne_iff_ne, Bool.and_eq_true]; tauto), List.foldl_cons,
        List.foldl_cons, ih]

/-- A path that leads somewhere leads where its names say. -/
theorem destination_of_locate (h : t.locate path = .ok l) : t.destination path = l := by
  rw [locate] at h
  split_ifs at h
  have hNames : "" ∉ names path := by
    rw [names]
    split <;> simp
  rw [walk_eq_ok hNames h, destination, names, ← foldl_onward_filter]
  split
  · rw [List.foldl_append, List.foldl_cons, List.foldl_nil, Location.onward, if_pos (.inr rfl)]
  · rfl

/-- The directories of a tree are directories of another one, and the working directory is the same. -/
structure KeepsDirectories (t t' : FileTree) : Prop where
  directory : ∀ l, t.nodeAt l = some .directory → t'.nodeAt l = some .directory
  workingDirectory : t'.workingDirectory = t.workingDirectory

namespace KeepsDirectories

variable (h : KeepsDirectories t t')
include h

theorem stepTo (hStep : t.stepTo l name = .ok next) : t'.stepTo l name = .ok next := by
  have hDirectory := stepTo_eq_ok hStep
  rw [FileTree.stepTo, hDirectory] at hStep
  rw [FileTree.stepTo, h.directory l hDirectory]
  exact hStep

theorem walk {names : List String} (hWalk : t.walk l names = .ok next) : t'.walk l names = .ok next := by
  induction names generalizing l with
  | nil => exact hWalk
  | cons name rest ih =>
    obtain ⟨middle, hStep, hRest⟩ := exists_of_bind_eq_ok hWalk
    exact bind_eq_of_ok (h.stepTo hStep) (ih hRest)

theorem locate (hLocate : t.locate path = .ok l) : t'.locate path = .ok l := by
  rw [FileTree.locate] at hLocate ⊢
  split_ifs at hLocate ⊢ with hZero hEmpty
  rw [startOf, h.workingDirectory]
  exact h.walk hLocate

end KeepsDirectories

/-! ## Reading and writing -/

theorem contentOf_eq_ok_iff : t.contentOf path = .ok content ↔
    ∃ l, t.locate path = .ok l ∧ t.nodeAt l = some (.file content) := by
  constructor
  · intro h
    obtain ⟨l, hLocate, hContent⟩ := exists_of_bind_eq_ok h
    split at hContent
    · cases hContent
    · cases hContent
    · rename_i found hFile
      exact ⟨l, hLocate, (Except.ok.inj hContent) ▸ hFile⟩
  · rintro ⟨l, hLocate, hFile⟩
    refine bind_eq_of_ok hLocate ?_
    rw [hFile]
    rfl

theorem pathExists_of_contentOf (h : t.contentOf path = .ok content) : t.pathExists path = true := by
  obtain ⟨l, hLocate, hFile⟩ := contentOf_eq_ok_iff.mp h
  exact pathExists_iff.mpr ⟨l, hLocate, by rw [hFile]; exact Option.some_ne_none _⟩

/-- A file may be written at a path that leads to a file, or to a free place in a directory. -/
structure Takes (t : FileTree) (path : String) (l : Location) : Prop where
  located : t.locate path = .ok l
  place : (∃ content, t.nodeAt l = some (.file content)) ∨
    (t.nodeAt l = none ∧ t.nodeAt l.dropLast = some .directory ∧ path.toList.getLast? ≠ some '/')

theorem put_eq_ok_iff : t.put path content = .ok t' ↔
    ∃ l, t.Takes path l ∧ t' = t.setNode l (.file content) := by
  constructor
  · intro h
    obtain ⟨l, hLocate, hPut⟩ := exists_of_bind_eq_ok h
    split at hPut
    · cases hPut
    · rename_i old hFile
      exact ⟨l, ⟨hLocate, .inl ⟨old, hFile⟩⟩, (Except.ok.inj hPut).symm⟩
    · rename_i hNone
      split_ifs at hPut with hAbove hSlash
      have hDirectory : t.isDirectory l.dropLast = true := by simpa using hAbove
      exact ⟨l, ⟨hLocate, .inr ⟨hNone, isDirectory_iff.mp hDirectory, hSlash⟩⟩, (Except.ok.inj hPut).symm⟩
  · rintro ⟨l, hTakes, rfl⟩
    refine bind_eq_of_ok hTakes.located ?_
    rcases hTakes.place with ⟨old, hFile⟩ | ⟨hNone, hAbove, hSlash⟩
    · rw [hFile]
      rfl
    · rw [hNone]
      simp only [isDirectory_iff.mpr hAbove, Bool.not_true, Bool.false_eq_true, if_false, hSlash]
      rfl

namespace Takes

variable (h : t.Takes path l)
include h

theorem not_directory : t.nodeAt l ≠ some .directory := by
  rcases h.place with ⟨content, hFile⟩ | ⟨hNone, -, -⟩
  · rw [hFile]
    rintro ⟨⟩
  · rw [hNone]
    rintro ⟨⟩

theorem ne_nil : l ≠ [] := by
  rintro rfl
  exact h.not_directory rfl

theorem keepsDirectories (node : FileNode) : KeepsDirectories t (t.setNode l node) where
  directory other hOther := by
    have hNe : other ≠ l := by
      rintro rfl
      exact h.not_directory hOther
    rw [nodeAt_setNode_of_ne hNe, hOther]
  workingDirectory := rfl

theorem locate_setNode (node : FileNode) : (t.setNode l node).locate path = .ok l :=
  (h.keepsDirectories node).locate h.located

theorem contentOf_setNode (content : ByteArray) : (t.setNode l (.file content)).contentOf path = .ok content :=
  contentOf_eq_ok_iff.mpr ⟨l, h.locate_setNode _, nodeAt_setNode_self h.ne_nil⟩

end Takes

/-! ## Growing trees -/

/-- Nothing of a tree is lost or changed in another one. -/
structure Keeps (t t' : FileTree) : Prop where
  node : ∀ l node, t.nodeAt l = some node → t'.nodeAt l = some node
  workingDirectory : t'.workingDirectory = t.workingDirectory

namespace Keeps

theorem refl (t : FileTree) : Keeps t t := ⟨fun _ _ h => h, rfl⟩

theorem trans {t'' : FileTree} (h : Keeps t t') (h' : Keeps t' t'') : Keeps t t'' :=
  ⟨fun l node hNode => h'.node l node (h.node l node hNode), h'.workingDirectory.trans h.workingDirectory⟩

theorem setNode (hNone : t.nodeAt l = none) (node : FileNode) : Keeps t (t.setNode l node) where
  node other old hOld := by
    have hNe : other ≠ l := by
      rintro rfl
      rw [hNone] at hOld
      cases hOld
    rw [nodeAt_setNode_of_ne hNe, hOld]
  workingDirectory := rfl

theorem contentOf (h : Keeps t t') (hContent : t.contentOf path = .ok content) :
    t'.contentOf path = .ok content := by
  have hDirectories : KeepsDirectories t t' := ⟨fun l => h.node l .directory, h.workingDirectory⟩
  obtain ⟨l, hLocate, hFile⟩ := contentOf_eq_ok_iff.mp hContent
  exact contentOf_eq_ok_iff.mpr ⟨l, hDirectories.locate hLocate, h.node l _ hFile⟩

end Keeps

/-! ## Making directories -/

theorem ne_nil_of_nodeAt_eq_none (h : t.nodeAt l = none) : l ≠ [] := by
  rintro rfl
  cases h

theorem Keeps.keepsDirectories (h : Keeps t t') : KeepsDirectories t t' :=
  ⟨fun l => h.node l .directory, h.workingDirectory⟩

theorem nodeAt_setNode (h : l ≠ []) {old : FileNode} (hOld : (t.setNode l node).nodeAt other = some old) :
    t.nodeAt other = some old ∨ (other = l ∧ old = node) := by
  by_cases hHere : other = l
  · rw [hHere, nodeAt_setNode_self h, Option.some.injEq] at hOld
    exact .inr ⟨hHere, hOld.symm⟩
  · rw [nodeAt_setNode_of_ne hHere] at hOld
    exact .inl hOld

/-- Directories are made where nothing was. -/
structure AddsDirectories (t t' : FileTree) : Prop where
  keeps : Keeps t t'
  added : ∀ l node, t'.nodeAt l = some node → t.nodeAt l = some node ∨ node = .directory

theorem AddsDirectories.refl (t : FileTree) : AddsDirectories t t := ⟨.refl t, fun _ _ => .inl⟩

theorem addsDirectories_makeAll (t : FileTree) (l : Location) (names : List String) :
    AddsDirectories t (t.makeAll l names).1 := by
  induction names generalizing t l with
  | nil =>
    rw [makeAll]
    split <;> exact .refl t
  | cons name rest ih =>
    rw [makeAll]
    split
    · exact .refl t
    · rename_i next hStep
      split
      · rename_i hNone
        obtain ⟨hKeeps, hAdded⟩ := ih (t.setNode next .directory) next
        refine ⟨(Keeps.setNode hNone .directory).trans hKeeps, fun other node hNode => ?_⟩
        rcases hAdded other node hNode with hMade | hDirectory
        · exact (nodeAt_setNode (ne_nil_of_nodeAt_eq_none hNone) hMade).imp_right And.right
        · exact .inr hDirectory
      · exact ih t next

theorem addsDirectories_makeDirectories (t : FileTree) (path : String) :
    AddsDirectories t (t.makeDirectories path).1 := by
  rw [makeDirectories]
  split
  · exact .refl t
  · exact addsDirectories_makeAll t _ _

theorem walk_makeAll {names : List String} (hStart : t.nodeAt l ≠ none) (h : (t.makeAll l names).2 = .ok ()) :
    ∃ last, (t.makeAll l names).1.walk l names = .ok last ∧ (t.makeAll l names).1.nodeAt last = some .directory := by
  induction names generalizing t l with
  | nil =>
    rw [makeAll] at h ⊢
    cases hNode : t.nodeAt l with
    | none => exact absurd hNode hStart
    | some node =>
      cases node with
      | directory => exact ⟨l, rfl, hNode⟩
      | file content =>
        rw [hNode] at h
        cases h
  | cons name rest ih =>
    have hKeeps := (addsDirectories_makeAll t l (name :: rest)).keeps.keepsDirectories
    rw [makeAll] at h hKeeps ⊢
    cases hStep : t.stepTo l name with
    | error fault =>
      rw [hStep] at h
      cases h
    | ok next =>
      simp only [hStep] at h hKeeps ⊢
      cases hNode : t.nodeAt next with
      | none =>
        simp only [hNode] at h hKeeps ⊢
        have hMade : (t.setNode next .directory).nodeAt next ≠ none := by
          rw [nodeAt_setNode_self (ne_nil_of_nodeAt_eq_none hNode)]
          exact Option.some_ne_none _
        obtain ⟨last, hWalk, hLast⟩ := ih hMade h
        exact ⟨last, bind_eq_of_ok (hKeeps.stepTo hStep) hWalk, hLast⟩
      | some node =>
        simp only [hNode] at h hKeeps ⊢
        obtain ⟨last, hWalk, hLast⟩ := ih (by rw [hNode]; exact Option.some_ne_none node) h
        exact ⟨last, bind_eq_of_ok (hKeeps.stepTo hStep) hWalk, hLast⟩

theorem makeDirectories_eq_ok (hStart : t.nodeAt t.workingDirectory ≠ none) (hPath : path ≠ "")
    (h : (t.makeDirectories path).2 = .ok ()) : ∃ l, (t.makeDirectories path).1.locate path = .ok l ∧
      (t.makeDirectories path).1.nodeAt l = some .directory := by
  have hStartOf : t.nodeAt (t.startOf path) ≠ none := by
    rw [startOf]
    split
    · exact Option.some_ne_none _
    · exact hStart
  have hWorking := (addsDirectories_makeDirectories t path).keeps.workingDirectory
  rw [makeDirectories] at h hWorking ⊢
  split at h
  · cases h
  · rename_i hZero
    rw [if_neg hZero] at hWorking ⊢
    have hSameStart : (t.makeAll (t.startOf path) (names path)).1.startOf path = t.startOf path := by
      rw [startOf, hWorking, ← startOf]
    rw [locate, if_neg hZero, if_neg hPath, hSameStart]
    exact walk_makeAll hStartOf h

end QuoteSearch.FileTree
