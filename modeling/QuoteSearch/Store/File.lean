import QuoteSearch.Attempt
import QuoteSearch.Files.Tree
import QuoteSearch.Store.Name

/-!
# Database files

The path of a database is resolved name by name before its file is opened: `..` takes away the name in
front of it, whatever that names, and slashes at the end do not count. While a database is used there
are other files beside its own, which have to get names as well. They come and go with its use and are
left out.
-/

namespace QuoteSearch

namespace DatabaseFile

/-- The number of bytes that a path from the root may have. -/
def longestPath : Nat := 512

def journalSuffix : String := "-journal"

def logSuffix : String := "-wal"

def pathSize (l : Location) : Nat := l.foldl (fun size name => size + (name.utf8ByteSize + 1)) 0

/-- Whether a name is one of a file, and none that stays or goes up. -/
def isProper (name : String) : Bool := name != "" && name != "." && name != ".."

/-- Goes one name further from a location. Nothing need be there, but a file leads no further. -/
def further (files : FileTree) (l : Location) (name : String) : Option Location :=
  let next := l.onward name
  if !isProper name then some next
  else if longestPath ≤ pathSize next then none
  else
    match files.stepTo l name with
    | .ok _ | .error .notFound => some next
    | .error _ => none

/-- The location of the file at a path, if a database can be there. -/
def locationOf (files : FileTree) (path : String) : Option Location := do
  let start := files.startOf path
  if longestPath ≤ pathSize start then none
  else
    let l ← (FileTree.parts path).foldlM (further files) start
    if l = [] ∨ longestPath < pathSize l + journalSuffix.utf8ByteSize then none else some l

/-- Whether a file beside a database can get a name. -/
def hasRoomBeside (l : Location) (suffix : String) : Bool :=
  (l.getLastD "").utf8ByteSize + suffix.utf8ByteSize ≤ FileTree.longestName

/-- How a file with a database begins. -/
def header : ByteArray := "SQLite format 3\x00".toUTF8

/-- A file with less than two bytes counts as empty. -/
def isBlank (content : ByteArray) : Bool := content.size ≤ 1

/-- Whether a file begins as one with a database does, which is then taken to be whole. -/
def hasHeader (content : ByteArray) : Bool := content.toList.take header.size = header.toList

/-- Puts a database into a blank file. -/
def start (files : FileTree) (l : Location) (mode : AccessMode) : Attempt DatabaseFault FileTree Unit :=
  if mode = .readOnly then ⟨.error .readOnly, files⟩
  else if hasRoomBeside l journalSuffix then ⟨.ok (), files.setNode l (.file header)⟩
  else ⟨.error .cannotOpen, files⟩

/-- Opens the file at a location, where a new file may be made. -/
def openAt (files : FileTree) (l : Location) (mode : AccessMode) : Attempt DatabaseFault FileTree Unit :=
  match files.nodeAt l with
  | some .directory => ⟨.error .cannotOpen, files⟩
  | some (.file content) =>
    if isBlank content then start files l mode
    else if !hasHeader content then ⟨.error .notADatabase, files⟩
    else if hasRoomBeside l logSuffix then ⟨.ok (), files⟩
    else ⟨.error .cannotOpen, files⟩
  | none =>
    if mode = .create ∧ files.isDirectory l.dropLast = true then
      start (files.setNode l (.file ByteArray.empty)) l mode
    else ⟨.error .cannotOpen, files⟩

/-- Opens what a name stands for. Not every database has a file. -/
def openFile (files : FileTree) (o : Opening) : Attempt DatabaseFault FileTree Unit :=
  match o.place with
  | .memory => ⟨.ok (), files⟩
  | .file path =>
    if !o.address.isLasting then ⟨.ok (), files⟩
    else
      match locationOf files path with
      | some l => openAt files l o.mode
      | none => ⟨.error .cannotOpen, files⟩

end DatabaseFile

end QuoteSearch
