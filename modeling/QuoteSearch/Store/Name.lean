import QuoteSearch.Store.Fault

/-!
# Names of databases

A database is opened under a name, which is a path, or a URI if it begins with `file:`. A URI may carry
options behind a question mark and ends at a number sign. Its parts may be percent-encoded, and a zero
byte ends a part.
-/

namespace QuoteSearch

open Text

/-- What may be done with the file of a database. -/
inductive AccessMode where
  | readOnly
  | readWrite
  /-- A file that is not there is made. -/
  | create
  /-- There is no file. -/
  | memory
deriving DecidableEq

namespace AccessMode

def ofName? (name : String) : Option AccessMode :=
  if name = "ro" then some .readOnly
  else if name = "rw" then some .readWrite
  else if name = "rwc" then some .create
  else if name = "memory" then some .memory
  else none

def rank : AccessMode → Nat
  | .readOnly => 0
  | .readWrite => 1
  | .create => 2
  | .memory => 3

/-- No more may be asked for than is allowed, but a database in memory always. -/
def allows (mode requested : AccessMode) : Bool := requested == .memory || requested.rank ≤ mode.rank

end AccessMode

/-- What is opened under a name. -/
structure Opening where
  place : StorePlace
  mode : AccessMode
  vfs : Option String
deriving DecidableEq

namespace Opening

/-- The address of what is opened. -/
def address (o : Opening) : StoreAddress :=
  ⟨if o.mode = .memory then .memory else o.place, o.mode == .readOnly, o.vfs⟩

/-! ## URIs -/

def uriScheme : List Char := "file:".toList

/-- A part of a URI, which may turn out to be no text. -/
def uriText (part : List Char) : Option String :=
  match decode ((percentDecode (bytesOf part)).takeWhile (· != 0)) with
  | .ok text => some (String.ofList text)
  | .error _ => none

/-- What stands behind the authority of a URI, if it is this machine. -/
def behindAuthority (rest : List Char) : Except DatabaseFault (List Char) :=
  match rest with
  | '/' :: '/' :: rest =>
    let authority := rest.takeWhile (· != '/')
    if authority = [] ∨ authority = "localhost".toList then .ok (rest.drop authority.length)
    else .error (.otherMachine (String.ofList authority))
  | rest => .ok rest

/-- The options of a URI that have a name. -/
def uriOptions (options : List Char) : List (String × String) :=
  (options.splitOn '&').filterMap fun part => do
    let (name, value) := cutAt '=' part
    let name ← uriText name
    let value ← uriText (value.getD [])
    if name = "" then none else some (name, value)

def withOption (o : Opening) (name value : String) : Except DatabaseFault Opening :=
  if name = "vfs" then .ok { o with vfs := some value }
  else if name = "cache" then
    if value = "shared" ∨ value = "private" then .ok o else .error (.noSuchMode "cache" value)
  else if name = "mode" then
    match AccessMode.ofName? value with
    | none => .error (.noSuchMode "access" value)
    | some mode => if o.mode.allows mode then .ok { o with mode } else .error (.modeNotAllowed value)
  else .ok o

def withOptions (o : Opening) : List (String × String) → Except DatabaseFault Opening
  | [] => .ok o
  | (name, value) :: rest => do (← o.withOption name value).withOptions rest

/-- What a URI names, given what stands behind its scheme. A path that is no text names no file. -/
def ofUri (rest : List Char) (mode : AccessMode) : Except DatabaseFault Opening := do
  let (uri, _) := cutAt '#' (← behindAuthority rest)
  let (path, options) := cutAt '?' uri
  match uriText path with
  | some path => withOptions ⟨.file path, mode, none⟩ (uriOptions (options.getD []))
  | none => throw .cannotOpen

/-! ## Addresses -/

/-- The mode in which the database at an address is opened. -/
def modeOf (a : StoreAddress) : AccessMode := if a.readOnly then .readOnly else .create

/-- What is opened at an address. A name that is handed on together with a way of accessing files is
never taken for a URI, and a zero byte ends it. -/
def ofAddress (a : StoreAddress) : Except StoreFault Opening :=
  match a.place with
  | .memory => .ok ⟨.memory, modeOf a, a.vfs⟩
  | .file name =>
    if a.vfs.isSome then .ok ⟨.file (String.ofList (name.toList.takeWhile (· != '\x00'))), modeOf a, a.vfs⟩
    else if '\x00' ∈ name.toList then .error .zeroInName
    else if uriScheme.isPrefixOf name.toList then
      (ofUri (name.toList.drop uriScheme.length) (modeOf a)).mapError .database
    else .ok ⟨.file name, modeOf a, none⟩

/-- The ways of accessing files that there are. -/
def knownVfs : List String := ["unix", "unix-none", "unix-dotfile", "unix-excl", "memdb"]

def withKnownVfs (o : Opening) : Except StoreFault Opening :=
  match o.vfs with
  | some name => if name ∈ knownVfs then .ok o else .error (.database (.noSuchVfs name))
  | none => .ok o

/-- What is opened at an address that is given as a text. -/
def ofText (address : String) : Except StoreFault Opening := do
  let a ← (StoreAddress.parse address).mapError .address
  (← ofAddress a).withKnownVfs

end Opening

end QuoteSearch
