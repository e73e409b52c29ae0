import QuoteSearch.Catalog.Write
import QuoteSearch.Catalog.Select
import QuoteSearch.Search
import QuoteSearch.Store.Address
import QuoteSearch.Store.Nesting

/-!
# Faults of the store

Why a database cannot be opened or does not do what it is asked for, and what is told of it.
-/

namespace QuoteSearch

inductive DatabaseFault where
  | noSuchTable (table : String)
  | noValue (column : String)
  | brokenReference
  | patternRefused
  | readOnly
  | cannotOpen
  | notADatabase
  | noSuchVfs (name : String)
  /-- The name of a database is a URI that leads to another machine. -/
  | otherMachine (authority : String)
  | noSuchMode (kind value : String)
  | modeNotAllowed (value : String)
  | conditionsTooDeep
deriving DecidableEq

namespace DatabaseFault

def code : DatabaseFault → Nat
  | .noSuchTable _ => 1
  | .noSuchVfs _ => 1
  | .otherMachine _ => 1
  | .noSuchMode _ _ => 1
  | .conditionsTooDeep => 1
  | .modeNotAllowed _ => 3
  | .readOnly => 8
  | .cannotOpen => 14
  | .notADatabase => 26
  | .brokenReference => 787
  | .patternRefused => 1043
  | .noValue _ => 1299

def text : DatabaseFault → String
  | .noSuchTable table => "no such table: " ++ table
  | .noSuchVfs name => "no such vfs: " ++ name
  | .otherMachine authority => "invalid uri authority: " ++ authority
  | .noSuchMode kind value => "no such " ++ kind ++ " mode: " ++ value
  | .modeNotAllowed value => "access mode not allowed: " ++ value
  | .conditionsTooDeep =>
    s!"Expression tree is too large (maximum depth {Nesting.deepest})"
  | .readOnly => "attempt to write a readonly database"
  | .cannotOpen => "unable to open database file"
  | .notADatabase => "file is not a database"
  | .brokenReference => "FOREIGN KEY constraint failed"
  | .patternRefused => "constraint failed"
  | .noValue column => "NOT NULL constraint failed: " ++ column

def message (fault : DatabaseFault) : String := s!"(code: {fault.code}) " ++ fault.text

end DatabaseFault

inductive StoreFault where
  | closed
  | address (fault : AddressFault)
  /-- The name of a database cannot be handed on, as a zero byte would end it. -/
  | zeroInName
  | database (fault : DatabaseFault)
deriving DecidableEq

namespace StoreFault

def zeroMessage : String := "filename passed to SQLite must not contain nul bytes"

def message : StoreFault → String
  | .closed => "attempted to acquire a connection on a closed pool"
  | .address fault => "error with configuration: " ++ fault.message
  | .zeroInName => "error communicating with database: " ++ zeroMessage
  | .database fault => "error returned from database: " ++ fault.message

/-- The fault behind a fault, for reports that show both. -/
def cause? : StoreFault → Option String
  | .closed => none
  | .address fault => some fault.message
  | .zeroInName => some zeroMessage
  | .database fault => some fault.message

def toSearch (fault : StoreFault) : SearchFault := .storeUnavailable fault.message

end StoreFault

def videoTable : String := "video_catalog"

def quoteTable : String := "quotes"

/-- The fault of the store when quotes cannot be written. -/
def WriteFault.toStore : WriteFault → StoreFault
  | .noStartTime => .database (.noValue (quoteTable ++ ".start_time"))
  | .noEndTime => .database (.noValue (quoteTable ++ ".end_time"))
  | .unknownVideo => .database .brokenReference

def SelectFault.toStore : SelectFault → StoreFault
  | .patternTooLarge => .database .patternRefused

end QuoteSearch
