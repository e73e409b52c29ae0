import QuoteSearch.Http.Host
import QuoteSearch.Settings.File
import QuoteSearch.Store.Basic

/-!
# Launching

What happens before the first request: settings are loaded, the data directory is made, the store
is opened and its tables are made, the settings are checked, and the address is bound. A launch
that fails says why and leaves behind what it made up to there.
-/

namespace QuoteSearch

inductive LaunchFault where
  | settings (fault : SettingsFault)
  | directory (fault : FileFault)
  | store (fault : StoreFault)
  | search (fault : SearchFault)
  | host (fault : Http.HostFault)

namespace LaunchFault

def message : LaunchFault → String
  | .settings fault => fault.message
  | .directory fault => fault.message
  | .store fault => fault.message
  | .search fault => fault.message
  | .host fault => fault.message

def cause? : LaunchFault → Option String
  | .store fault => fault.cause?
  | _ => none

/-- The report of a failed launch: what failed and, if it is known, what was behind it. -/
def report (fault : LaunchFault) : String :=
  "Error: " ++ fault.message ++
    match fault.cause? with
    | some cause => "\n\nCaused by:\n    " ++ cause
    | none => ""

end LaunchFault

/-- What the program runs with once it was launched. -/
structure Running where
  settings : Settings
  store : Store
  service : SearchService

/-- How a launch ended and the files as they are then. -/
structure Launch where
  outcome : Except LaunchFault Running
  files : FileTree

namespace Launch

/-- Makes the tables of a store and checks the settings. -/
def prepare (settings : Settings) (store : Store) (draw : List QuoteRow → List QuoteRow) :
    Except LaunchFault Running :=
  match store.init with
  | .error fault => .error (.store fault)
  | .ok store =>
    match SearchService.ofSettings (store.reads draw) settings.search with
    | .error fault => .error (.search fault)
    | .ok service =>
      match Http.Host.fault? settings.server.host with
      | none => .ok ⟨settings, store, service⟩
      | some fault => .error (.host fault)

/-- Opens the store and goes on with it. -/
def openStore (settings : Settings) (address : String) (draw : List QuoteRow → List QuoteRow)
    (files : FileTree) : Launch :=
  let opened := Store.openAt files address
  match opened.outcome with
  | .error fault => ⟨.error (.store fault), opened.state⟩
  | .ok store => ⟨prepare settings store draw, opened.state⟩

/-- Launches the program in the working directory. The address of the database may be given from
outside; otherwise it follows from the settings. -/
def run (databaseAddress : Option String) (draw : List QuoteRow → List QuoteRow)
    (files : FileTree) : Launch :=
  let loaded := Settings.loadFrom files Settings.fileName
  match loaded.outcome with
  | .error fault => ⟨.error (.settings fault), loaded.state⟩
  | .ok settings =>
    let directory := settings.database.directory
    let (files, made) :=
      if loaded.state.pathExists directory then (loaded.state, .ok ())
      else loaded.state.makeDirectories directory
    match made with
    | .error fault => ⟨.error (.directory fault), files⟩
    | .ok () => openStore settings (databaseAddress.getD settings.database.address) draw files

/-- The exit code of the program if nothing but the launch could fail. -/
def exitCode (l : Launch) : UInt32 :=
  match l.outcome with
  | .ok _ => 0
  | .error _ => 1

def errorText (l : Launch) : String :=
  match l.outcome with
  | .ok _ => ""
  | .error fault => fault.report

end Launch

end QuoteSearch
