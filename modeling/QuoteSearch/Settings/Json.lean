import QuoteSearch.Json.Decode
import QuoteSearch.Settings.Basic

/-!
# The JSON form of settings

A section that is left out has its default values. A server or database section that is there
has to be complete; the search section is completed field by field.
-/

namespace QuoteSearch

open Json

namespace WordGroup

def toJson (g : WordGroup) : Json :=
  .obj [("name", .str g.name), ("words", .arr (g.words.map .str))]

def decodeWords : Decoder (List String) := Decode.list Decode.string

def decode : Decoder WordGroup :=
  Decode.struct "WordGroup"
    [("name", Decode.check Decode.string), ("words", Decode.check decodeWords)]
    fun fields => do
      let name ← fields.get "name" Decode.string
      let words ← fields.get "words" decodeWords
      return ⟨name, words⟩

end WordGroup

namespace ServerSettings

def toJson (s : ServerSettings) : Json :=
  .obj [("host", .str s.host), ("port", .int s.port.toNat)]

def decode : Decoder ServerSettings :=
  Decode.struct "ServerConfig"
    [("host", Decode.check Decode.string), ("port", Decode.check Decode.uint16)]
    fun fields => do
      let host ← fields.get "host" Decode.string
      let port ← fields.get "port" Decode.uint16
      return ⟨host, port⟩

end ServerSettings

namespace DatabaseSettings

def toJson (s : DatabaseSettings) : Json :=
  .obj [("data_dir", .str s.directory), ("db_file", .str s.file)]

def decode : Decoder DatabaseSettings :=
  Decode.struct "DatabaseConfig"
    [("data_dir", Decode.check Decode.string), ("db_file", Decode.check Decode.string)]
    fun fields => do
      let directory ← fields.get "data_dir" Decode.string
      let file ← fields.get "db_file" Decode.string
      return ⟨directory, file⟩

end DatabaseSettings

namespace SearchSettings

def toJson (s : SearchSettings) : Json :=
  .obj [("quotes_per_page", .int s.quotesPerPage.toNat),
    ("videos_per_page", .int s.videosPerPage.toNat),
    ("random_quote_count", .int s.randomQuoteCount.toNat),
    ("word_groups", .arr (s.wordGroups.map WordGroup.toJson))]

def decodeGroups : Decoder (List WordGroup) := Decode.list WordGroup.decode

def decode : Decoder SearchSettings :=
  Decode.struct "SearchConfig"
    [("quotes_per_page", Decode.check Decode.uint32),
      ("videos_per_page", Decode.check Decode.uint32),
      ("random_quote_count", Decode.check Decode.uint32),
      ("word_groups", Decode.check decodeGroups)]
    fun fields => do
      let quotesPerPage ← fields.getD "quotes_per_page" Decode.uint32 default.quotesPerPage
      let videosPerPage ← fields.getD "videos_per_page" Decode.uint32 default.videosPerPage
      let randomQuoteCount ←
        fields.getD "random_quote_count" Decode.uint32 default.randomQuoteCount
      let wordGroups ← fields.getD "word_groups" decodeGroups default.wordGroups
      return ⟨quotesPerPage, videosPerPage, randomQuoteCount, wordGroups⟩

end SearchSettings

namespace Settings

def toJson (s : Settings) : Json :=
  .obj [("server", s.server.toJson), ("database", s.database.toJson),
    ("search", s.search.toJson)]

def decode : Decoder Settings :=
  Decode.struct "AppConfig"
    [("server", Decode.check ServerSettings.decode),
      ("database", Decode.check DatabaseSettings.decode),
      ("search", Decode.check SearchSettings.decode)]
    fun fields => do
      let server ← fields.getD "server" ServerSettings.decode default.server
      let database ← fields.getD "database" DatabaseSettings.decode default.database
      let search ← fields.getD "search" SearchSettings.decode default.search
      return ⟨server, database, search⟩

end Settings

end QuoteSearch
