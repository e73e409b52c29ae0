/-!
# A tree of files

Directories and files under a root, with a working directory from which relative paths lead. A
path is a text in which slashes separate names; `.` stays and `..` goes up.
-/

namespace QuoteSearch

inductive FileFault where
  | notFound
  | notADirectory
  | isADirectory
  | nameTooLong
  | zeroInName
deriving DecidableEq

def FileFault.message : FileFault → String
  | .notFound => "No such file or directory (os error 2)"
  | .notADirectory => "Not a directory (os error 20)"
  | .isADirectory => "Is a directory (os error 21)"
  | .nameTooLong => "File name too long (os error 36)"
  | .zeroInName => "file name contained an unexpected NUL byte"

inductive FileNode where
  | directory
  | file (content : ByteArray)

/-- The names that lead from the root to a node. -/
abbrev Location := List String

/-- The location one name further, by the names alone. -/
def Location.onward (l : Location) (name : String) : Location :=
  if name = "" ∨ name = "." then l
  else if name = ".." then l.dropLast
  else l ++ [name]

structure FileTree where
  nodes : List (Location × FileNode)
  workingDirectory : Location

namespace FileTree

def nodeAt (t : FileTree) (l : Location) : Option FileNode :=
  if l = [] then some .directory else t.nodes.lookup l

def isDirectory (t : FileTree) (l : Location) : Bool :=
  match t.nodeAt l with
  | some .directory => true
  | _ => false

/-- Puts a node in its place, where another may have been. -/
def setNode (t : FileTree) (l : Location) (node : FileNode) : FileTree :=
  { t with nodes := (l, node) :: t.nodes.filter fun entry => entry.1 != l }

def longestName : Nat := 255

def parts (path : String) : List String := (path.toList.splitOn '/').map String.ofList

/-- The names of a path. A name that says to stay is left out; an empty last name asks for a
directory and is kept as one. -/
def names (path : String) : List String :=
  let kept := (parts path).filter fun name => name != "" && name != "."
  if path.toList.getLast? = some '/' ∧ kept ≠ [] then kept ++ ["."] else kept

/-- The directory from which a path leads. -/
def startOf (t : FileTree) (path : String) : Location :=
  if path.toList.head? = some '/' then [] else t.workingDirectory

/-- The location that a path names, whatever is on the way to it. -/
def destination (t : FileTree) (path : String) : Location := (parts path).foldl Location.onward (t.startOf path)

/-- Goes one name further from a location that has to be a directory. -/
def stepTo (t : FileTree) (l : Location) (name : String) : Except FileFault Location :=
  match t.nodeAt l with
  | none => .error .notFound
  | some (.file _) => .error .notADirectory
  | some .directory =>
    if name = "." then .ok l
    else if name = ".." then .ok l.dropLast
    else if longestName < name.utf8ByteSize then .error .nameTooLong
    else .ok (l ++ [name])

def walk (t : FileTree) : Location → List String → Except FileFault Location
  | l, [] => .ok l
  | l, name :: rest => do t.walk (← t.stepTo l name) rest

/-- The location that a path leads to, where there need not be a node yet. -/
def locate (t : FileTree) (path : String) : Except FileFault Location :=
  if path.toList.contains '\x00' then .error .zeroInName
  else if path = "" then .error .notFound
  else t.walk (t.startOf path) (names path)

def pathExists (t : FileTree) (path : String) : Bool :=
  match t.locate path with
  | .ok l => (t.nodeAt l).isSome
  | .error _ => false

def contentOf (t : FileTree) (path : String) : Except FileFault ByteArray := do
  match t.nodeAt (← t.locate path) with
  | none => throw .notFound
  | some .directory => throw .isADirectory
  | some (.file content) => return content

/-- Writes a file, which need not exist; its directory has to. -/
def put (t : FileTree) (path : String) (content : ByteArray) :
    Except FileFault FileTree := do
  let l ← t.locate path
  match t.nodeAt l with
  | some .directory => throw .isADirectory
  | some (.file _) => return t.setNode l (.file content)
  | none =>
    if !t.isDirectory l.dropLast then throw .notFound
    else if path.toList.getLast? = some '/' then throw .isADirectory
    else return t.setNode l (.file content)

/-- Makes the directories on a way that are not there yet. The tree is returned as far as it was
made. -/
def makeAll (t : FileTree) : Location → List String → FileTree × Except FileFault Unit
  | l, [] =>
    match t.nodeAt l with
    | some (.file _) => (t, .error .notADirectory)
    | _ => (t, .ok ())
  | l, name :: rest =>
    match t.stepTo l name with
    | .error fault => (t, .error fault)
    | .ok next =>
      match t.nodeAt next with
      | none => (t.setNode next .directory).makeAll next rest
      | some _ => t.makeAll next rest

/-- Makes a directory together with those above it. -/
def makeDirectories (t : FileTree) (path : String) : FileTree × Except FileFault Unit :=
  if path.toList.contains '\x00' then (t, .error .zeroInName)
  else t.makeAll (t.startOf path) (names path)

/-- The locations below the working directory, relative to it, with their nodes. -/
def below (t : FileTree) : List (Location × FileNode) :=
  t.nodes.filterMap fun (l, node) =>
    let n := t.workingDirectory.length
    if n < l.length ∧ l.take n = t.workingDirectory then some (l.drop n, node) else none

end FileTree

/-- The path of a file in a directory. A path that begins with a slash leads away from the
directory. -/
def joinPath (directory file : String) : String :=
  if file.toList.head? = some '/' ∨ directory = "" then file
  else if directory.toList.getLast? = some '/' then directory ++ file
  else directory ++ "/" ++ file

end QuoteSearch
