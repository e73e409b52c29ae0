import QuoteSearch.Attempt
import QuoteSearch.Files.Tree
import QuoteSearch.Settings.Json

/-!
# The settings file

Settings are kept in a file as indented JSON. Loading them from a file that is not there writes
the default settings into it; a file that is there is only read.
-/

namespace QuoteSearch

inductive SettingsFault where
  | unreadable (fault : FileFault)
  | notText
  | malformed (fault : Json.DecodeFault)
  | unwritable (fault : FileFault)

def SettingsFault.message : SettingsFault → String
  | .unreadable fault => "Failed to read config file: " ++ fault.message
  | .notText => "Failed to read config file: stream did not contain valid UTF-8"
  | .malformed fault => "Failed to parse config file: " ++ fault.message
  | .unwritable fault => "Failed to write config file: " ++ fault.message

namespace Settings

/-- The settings file in the working directory. -/
def fileName : String := "config.json"

def fileText (s : Settings) : String := s.toJson.pretty

def ofFileText (text : String) : Except SettingsFault Settings :=
  (Json.Decode.ofText decode text).mapError .malformed

/-- Writes settings into a file. -/
def writeTo (files : FileTree) (path : String) (s : Settings) : Attempt SettingsFault FileTree Unit :=
  match files.put path s.fileText.toUTF8 with
  | .ok written => ⟨.ok (), written⟩
  | .error fault => ⟨.error (.unwritable fault), files⟩

/-- The files with settings in one of them. -/
def save (files : FileTree) (path : String) (s : Settings) : Except SettingsFault FileTree :=
  (writeTo files path s).passed.map Prod.snd

def readFrom (files : FileTree) (path : String) : Except SettingsFault Settings := do
  let content ← (files.contentOf path).mapError .unreadable
  match String.fromUTF8? content with
  | some text => ofFileText text
  | none => throw .notText

/-- Loads settings from a file. If there is none, the default settings are written into it. -/
def loadFrom (files : FileTree) (path : String) : Attempt SettingsFault FileTree Settings :=
  if files.pathExists path then ⟨readFrom files path, files⟩
  else
    let written := writeTo files path default
    ⟨written.outcome.map fun _ => default, written.state⟩

/-- The settings in a file with the files as they are then. -/
def load (files : FileTree) (path : String) : Except SettingsFault (Settings × FileTree) :=
  (loadFrom files path).passed

end Settings

end QuoteSearch
