import QuoteSearch.Http.Api
import QuoteSearch.Launch

/-!
# The program

Launches in the working directory and then answers requests from standard input, one a line: a
method and a target, separated by a blank. For each it prints the status and the body. The
catalogue is kept in memory.
-/

namespace QuoteSearch.Main

/-- A file of which only the beginning matters. -/
def beginningLength : USize := 16

def namesOf (path : String) : Location :=
  (FileTree.parts path).filter fun name => name != ""

def nodesAbove (l : Location) : List (Location × FileNode) :=
  (List.range l.length).map fun n => (l.take (n + 1), .directory)

/-- The nodes for the entries of a directory and all below; settings files are read as a whole. -/
partial def nodesBelow (l : Location) (entries : Array IO.FS.DirEntry) :
    IO (List (Location × FileNode)) := do
  let mut nodes := []
  for entry in entries do
    let here := l ++ [entry.fileName]
    if ← entry.path.isDir then
      nodes := (here, .directory) :: nodes ++ (← nodesBelow here (← entry.path.readDir))
    else if entry.fileName == Settings.fileName then
      nodes := (here, .file (← IO.FS.readBinFile entry.path)) :: nodes
    else
      let content ← IO.FS.withFile entry.path .read fun handle => handle.read beginningLength
      nodes := (here, .file content) :: nodes
  return nodes

/-- Makes what a launch made, except for the database. -/
def writeNodes (before after : FileTree) : IO Unit := do
  for (l, node) in after.nodes.reverse do
    if (before.nodeAt l).isNone then
      let path := "/" ++ "/".intercalate l
      match node with
      | .directory => IO.FS.createDirAll path
      | .file content => if content != DatabaseFile.header then IO.FS.writeBinFile path content

def bodyText : Http.Body → String
  | .empty => ""
  | .text content => content
  | .json content => content.compact

partial def serve (app : Http.App) (input output : IO.FS.Stream) : IO Unit := do
  let line ← input.getLine
  if line.isEmpty then return
  let (method, target) := Text.cutAt ' ' (Text.trimBlanks line.toList)
  let request := Http.Request.ofTarget (String.ofList method) (String.ofList (target.getD []))
  let response := Http.respond app request
  output.putStrLn s!"{response.status} {bodyText response.body}"
  output.flush
  serve app input output

/-- Launches and serves; the result is the exit code. -/
def run : IO UInt32 := do
  let directory ← IO.currentDir
  let here := namesOf directory.toString
  let below ← nodesBelow here (← directory.readDir)
  let files : FileTree := ⟨nodesAbove here ++ below, here⟩
  let launch := Launch.run (← IO.getEnv "DATABASE_URL") id files
  writeNodes files launch.files
  match launch.outcome with
  | .error fault => IO.eprintln fault.report
  | .ok running => serve ⟨running.service, ""⟩ (← IO.getStdin) (← IO.getStdout)
  return launch.exitCode

end QuoteSearch.Main

def main : IO UInt32 := QuoteSearch.Main.run
