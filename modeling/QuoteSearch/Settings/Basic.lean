import QuoteSearch.Files.Tree

/-!
# Settings

What can be set of the program: where it listens, where the catalogue is kept, and how much a
search shows. Everything that is not set has a default value.
-/

namespace QuoteSearch

/-- Words that are counted together under a name. -/
structure WordGroup where
  name : String
  words : List String
deriving DecidableEq

structure ServerSettings where
  host : String
  port : UInt16
deriving DecidableEq

structure DatabaseSettings where
  directory : String
  file : String
deriving DecidableEq

structure SearchSettings where
  quotesPerPage : UInt32
  videosPerPage : UInt32
  randomQuoteCount : UInt32
  wordGroups : List WordGroup
deriving DecidableEq

structure Settings where
  server : ServerSettings
  database : DatabaseSettings
  search : SearchSettings
deriving DecidableEq

namespace ServerSettings

def default : ServerSettings := ⟨"0.0.0.0", 5000⟩

/-- Host and port, separated by a colon. -/
def address (s : ServerSettings) : String := s.host ++ ":" ++ Nat.repr s.port.toNat

end ServerSettings

namespace DatabaseSettings

def default : DatabaseSettings := ⟨"data", "quotes.db"⟩

/-- The address of the database: its path with a parameter that has the file made if need be. -/
def address (s : DatabaseSettings) : String :=
  "sqlite:" ++ joinPath s.directory s.file ++ "?mode=rwc"

end DatabaseSettings

namespace SearchSettings

def defaultGroups : List WordGroup :=
  [⟨"grem", ["Grem", "Grems"]⟩, ⟨"cece", ["Cecilia", "Cece"]⟩, ⟨"yaoi", ["Yaoi"]⟩,
    ⟨"yippee", ["Yippee"]⟩, ⟨"league", ["League of Legends"]⟩,
    ⟨"sixseven", ["6 7", "Six Seven"]⟩]

def default : SearchSettings := ⟨10, 24, 10, defaultGroups⟩

end SearchSettings

def Settings.default : Settings :=
  ⟨ServerSettings.default, DatabaseSettings.default, SearchSettings.default⟩

end QuoteSearch
