import QuoteSearch.Text.Percent
import QuoteSearch.Text.Quoted

/-!
# Database addresses

An address names a database in memory or a file and may carry parameters behind a question mark.
The path of a file may be percent-encoded.
-/

namespace QuoteSearch

open Text

inductive StorePlace where
  | memory
  | file (path : String)
deriving DecidableEq

structure StoreAddress where
  place : StorePlace
  readOnly : Bool
  /-- The way of accessing files, if it is not the usual one. -/
  vfs : Option String
deriving DecidableEq

inductive AddressFault where
  /-- The path is no UTF-8 from some position on. -/
  | badPath (position : Nat) (fault : Utf8Fault)
  | unknownValue (parameter value : String)
  | unknownParameter (name : String)
deriving DecidableEq

def AddressFault.message : AddressFault → String
  | .badPath position (.invalid length) =>
    s!"invalid utf-8 sequence of {length} bytes from index {position}"
  | .badPath position .incomplete => s!"incomplete utf-8 byte sequence from index {position}"
  | .unknownValue parameter value =>
    "unknown value " ++ cited value ++ " for `" ++ parameter ++ "`"
  | .unknownParameter name =>
    "unknown query parameter `" ++ name ++ "` while parsing connection URL"

namespace StoreAddress

/-- Drops a beginning as often as it is there. -/
def dropRepeated (beginning : List Char) : (fuel : Nat) → List Char → List Char
  | 0, text => text
  | fuel + 1, text =>
    if beginning.isPrefixOf text then dropRepeated beginning fuel (text.drop beginning.length)
    else text

/-- Drops the scheme in front of the path. -/
def dropScheme (text : List Char) : List Char :=
  let text := dropRepeated "sqlite://".toList text.length text
  dropRepeated "sqlite:".toList text.length text

def withParameter (a : StoreAddress) (name value : String) : Except AddressFault StoreAddress :=
  if name = "mode" then
    if value = "ro" then .ok { a with readOnly := true }
    else if value = "memory" then .ok { a with place := .memory }
    else if value = "rw" ∨ value = "rwc" then .ok a
    else .error (.unknownValue name value)
  else if name = "cache" then
    if value = "private" ∨ value = "shared" then .ok a else .error (.unknownValue name value)
  else if name = "immutable" then
    if value = "true" ∨ value = "1" ∨ value = "false" ∨ value = "0" then .ok a
    else .error (.unknownValue name value)
  else if name = "vfs" then .ok { a with vfs := some value }
  else .error (.unknownParameter name)

def withParameters (a : StoreAddress) :
    List (String × String) → Except AddressFault StoreAddress
  | [] => .ok a
  | (name, value) :: rest => do (← a.withParameter name value).withParameters rest

/-- The name of a database in memory. -/
def memoryName : String := ":memory:"

def placeOf (path : List Char) : Except AddressFault StorePlace :=
  if path = memoryName.toList then .ok .memory
  else
    match percentDecodeText path with
    | .ok decoded => .ok (.file (String.ofList decoded))
    | .error (position, fault) => .error (.badPath position fault)

/-- Whether the database is still there after it was closed. A file without a name is temporary,
and `memdb` keeps files in memory. -/
def isLasting (a : StoreAddress) : Bool :=
  match a.place with
  | .memory => false
  | .file path => path != "" && path != memoryName && a.vfs != some "memdb"

def parse (address : String) : Except AddressFault StoreAddress := do
  let (path, parameters) := cutAt '?' (dropScheme address.toList)
  let place ← placeOf path
  withParameters ⟨place, false, none⟩ (formPairs (parameters.getD []))

end StoreAddress

end QuoteSearch
