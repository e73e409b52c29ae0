import QuoteSearch.Store.File

/-!
# The store

A store is opened at an address and holds a catalogue once its tables are made. All access fails
while it is closed or has no tables. A database in memory is gone when it is closed; one in a
lasting file is found again. A write is a transaction: one that fails is taken back as a whole.
-/

namespace QuoteSearch

structure Store where
  address : StoreAddress
  isOpen : Bool
  /-- The catalogue, if the tables were made. -/
  tables : Option Catalog
deriving DecidableEq

namespace Store

/-- Opens the database at an address; its tables need not be there. -/
def openAt (files : FileTree) (address : String) : Attempt StoreFault FileTree Store :=
  match Opening.ofText address with
  | .error fault => ⟨.error fault, files⟩
  | .ok o =>
    let opened := DatabaseFile.openFile files o
    match opened.outcome with
    | .error fault => ⟨.error (.database fault), opened.state⟩
    | .ok () => ⟨.ok ⟨o.address, true, none⟩, opened.state⟩

/-- The store at an address with the files as they are then. -/
def connect (files : FileTree) (address : String) : Except StoreFault (Store × FileTree) :=
  (openAt files address).passed

def close (s : Store) : Store := { s with isOpen := false }

/-- Closes the store and opens it again at its address. -/
def reopen (s : Store) : Store :=
  { s with
    isOpen := true
    tables := if s.address.isLasting then s.tables else none }

/-- Makes the tables if they are not there. -/
def makeTables (s : Store) : Attempt StoreFault Store Unit :=
  if !s.isOpen then ⟨.error .closed, s⟩
  else if s.address.readOnly then ⟨.error (.database .readOnly), s⟩
  else ⟨.ok (), { s with tables := some (s.tables.getD .empty) }⟩

/-- The store with its tables. -/
def init (s : Store) : Except StoreFault Store := s.makeTables.passed.map Prod.snd

/-- The catalogue, or why it cannot be accessed; `table` is the one that is missed first. -/
def access (s : Store) (table : String) : Except StoreFault Catalog :=
  if !s.isOpen then .error .closed
  else
    match s.tables with
    | some c => .ok c
    | none => .error (.database (.noSuchTable table))

/-- Writes to the catalogue of a store. What was written is kept if nothing failed, and otherwise the
catalogue is as it was. -/
def transact {α : Type} (s : Store) (table : String) (write : Catalog → Attempt StoreFault Catalog α) :
    Attempt StoreFault Store α :=
  match s.access table with
  | .error fault => ⟨.error fault, s⟩
  | .ok c =>
    if s.address.readOnly then ⟨.error (.database .readOnly), s⟩
    else
      let written := write c
      match written.outcome with
      | .ok a => ⟨.ok a, { s with tables := some written.state }⟩
      | .error fault => ⟨.error fault, { s with tables := some c }⟩

/-- Writes videos and returns their number. Nothing is accessed when there are none. -/
def writeVideos (s : Store) (videos : List Video) : Attempt StoreFault Store Nat :=
  if videos.isEmpty then ⟨.ok 0, s⟩
  else s.transact videoTable fun c => ⟨.ok videos.length, c.upsertVideos videos⟩

/-- Writes quotes of a video and returns their number. Nothing is accessed when there are none. -/
def writeQuotes (s : Store) (videoId : String) (quotes : List NewQuote) : Attempt StoreFault Store Nat :=
  if quotes.isEmpty then ⟨.ok 0, s⟩
  else s.transact quoteTable fun c =>
    let written := c.insertEach videoId quotes
    ⟨(written.outcome.mapError WriteFault.toStore).map fun _ => quotes.length, written.state⟩

/-- The number of the videos that were written, and the store that has them. -/
def upsertVideos (s : Store) (videos : List Video) : Except StoreFault (Nat × Store) :=
  (s.writeVideos videos).passed

/-- The number of the quotes that were written, and the store that has them. -/
def insertQuotes (s : Store) (videoId : String) (quotes : List NewQuote) : Except StoreFault (Nat × Store) :=
  (s.writeQuotes videoId quotes).passed

/-- The catalogue for a read under conditions that nest so deep. -/
def accessUnder (s : Store) (table : String) (nesting : Nesting) : Except StoreFault Catalog := do
  if s.isOpen && Nesting.deepest < nesting.written then throw (.database .conditionsTooDeep)
  let c ← s.access table
  if Nesting.deepest < nesting.resolved then throw (.database .conditionsTooDeep)
  return c

/-- A read of the catalogue. -/
def read {α : Type} (s : Store) (table : String) (nesting : Nesting)
    (query : Catalog → Selection α) : SearchResult α :=
  let result : Except StoreFault α := do
    let c ← s.accessUnder table nesting
    (query c).mapError SelectFault.toStore
  result.mapError StoreFault.toSearch

/-- What can be read of the store; `draw` puts quotes in a random order. -/
def reads (s : Store) (draw : List QuoteRow → List QuoteRow) : Reads where
  listVideos filters sort :=
    s.read videoTable (.ofVideos filters) fun c => c.listVideos filters sort
  listVideosPage filters sort page :=
    s.read videoTable (.ofVideos filters) fun c => (c.listVideos filters sort).map page.slice
  countQuotes filters := s.read quoteTable (.ofQuotes filters) fun c => c.countQuotes filters
  listQuotes filters sort page :=
    s.read quoteTable (.ofQuotes filters) fun c => (c.listQuotes filters sort).map page.slice
  findVideo id := s.read videoTable .none fun c => .ok (c.findVideo id)
  quotesForVideo id := s.read quoteTable .none fun c => .ok (c.transcript id)
  randomQuotes limit := s.read quoteTable .none fun c => .ok ((draw c.rows).take limit)
  countOccurrences pattern :=
    if pattern.fits then s.read quoteTable .none fun c => .ok (c.countOccurrences pattern)
    else .error (.invalidInput WordPattern.sizeMessage)

end Store

end QuoteSearch
