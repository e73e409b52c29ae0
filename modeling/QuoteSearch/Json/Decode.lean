import QuoteSearch.Date
import QuoteSearch.Json.Document
import QuoteSearch.Json.Value
import QuoteSearch.Text.Quoted

/-!
# Reading values of a type from a document

A decoder walks a document in the order of the text and stops at the first fault: a place that is
no JSON, a value of the wrong kind, or a field that is missing or given twice. A structure is
given as a record, whose unknown members are skimmed, or as a list of its fields in order.
-/

namespace QuoteSearch.Json

/-- What was found where a value of another kind was expected. -/
inductive Found where
  | null
  | bool (b : Bool)
  | integer (n : Int)
  | float (x : Float)
  | string (s : String)
  | list
  | record

def Found.describe : Found → String
  | .null => "null"
  | .bool b => "boolean `" ++ (if b then "true" else "false") ++ "`"
  | .integer n => "integer `" ++ String.ofList (Decimal.intText n) ++ "`"
  | .float x => "floating point `" ++ String.ofList (scalarText (.float x)) ++ "`"
  | .string s => "string " ++ Text.cited s
  | .list => "sequence"
  | .record => "map"

inductive DecodeFault where
  | grammar (fault : GrammarFault)
  | wrongType (found : Found) (expected : String)
  | wrongValue (found : Found) (expected : String)
  | missingField (name : String)
  | duplicateField (name : String)
  /-- A list has too few items for a structure of so many fields. -/
  | tooShort (length : Nat) (structureName : String) (fieldCount : Nat)
  /-- A list has more items than a structure has fields; it has this many in all. -/
  | tooLong (length : Nat)
  | unknownVariant (name : String) (known : List String)
  | date (fault : DateFault)

def DecodeFault.message : DecodeFault → String
  | .grammar fault => fault.message
  | .wrongType found expected => "invalid type: " ++ found.describe ++ ", expected " ++ expected
  | .wrongValue found expected => "invalid value: " ++ found.describe ++ ", expected " ++ expected
  | .missingField name => "missing field `" ++ name ++ "`"
  | .duplicateField name => "duplicate field `" ++ name ++ "`"
  | .tooShort length structureName fieldCount =>
    s!"invalid length {length}, expected struct {structureName} with {fieldCount} elements"
  | .tooLong _ => GrammarFault.trailingCharacters.message
  | .unknownVariant name known =>
    "unknown variant `" ++ name ++ "`, expected " ++
      " or ".intercalate (known.map fun k => "`" ++ k ++ "`")
  | .date fault => fault.message

abbrev Decoder (α : Type) := Document → Except DecodeFault α

namespace Decode

def ofToken {α : Type} (token : Token α) : Except DecodeFault α := token.mapError .grammar

def foundNumber : Number → Found
  | .natural n => .integer n
  | .negative n => .integer (-n)
  | .real x => .float x

def found : Document → Except DecodeFault Found
  | .null => .ok .null
  | .bool b => .ok (.bool b)
  | .number token => (ofToken token).map foundNumber
  | .string token => (ofToken token).map .string
  | .list _ _ => .ok .list
  | .record _ _ => .ok .record
  | .broken place => .error (.grammar place.read)
  | .ended => .error (.grammar .eofInValue)

/-- The fault of a document of the wrong kind. -/
def mismatch {α : Type} (expected : String) (doc : Document) : Except DecodeFault α := do
  throw (.wrongType (← found doc) expected)

def string : Decoder String
  | .string token => ofToken token
  | doc => mismatch "a string" doc

def float : Decoder Float
  | .number token => do
    match ← ofToken token with
    | .natural n => return Float.ofNat n
    | .negative n => return -(Float.ofNat n)
    | .real x => return x
  | doc => mismatch "f64" doc

/-- A whole number between the bounds; `expected` names the type. -/
def integer (least most : Int) (expected : String) : Decoder Int
  | .number token => do
    let number ← ofToken token
    let within (n : Int) : Except DecodeFault Int :=
      if least ≤ n ∧ n ≤ most then .ok n else .error (.wrongValue (.integer n) expected)
    match number with
    | .natural n => within n
    | .negative n => within (-n)
    | .real x => throw (.wrongType (.float x) expected)
  | doc => mismatch expected doc

def uint16 : Decoder UInt16 := fun doc =>
  (integer 0 (Int.pow 2 16 - 1) "u16" doc).map fun n => UInt16.ofNat n.toNat

def uint32 : Decoder UInt32 := fun doc =>
  (integer 0 (Int.pow 2 32 - 1) "u32" doc).map fun n => UInt32.ofNat n.toNat

def int64 : Decoder Int := integer (-Int.pow 2 63) (Int.pow 2 63 - 1) "i64"

def date : Decoder Date
  | .string token => do (Date.read (← ofToken token)).mapError .date
  | doc => mismatch "a formatted date string" doc

def stopFault (stop : Option Break) : Except DecodeFault Unit :=
  match stop with
  | some place => .error (.grammar place.read)
  | none => .ok ()

def items {α : Type} (item : Decoder α) : List Document → Except DecodeFault (List α)
  | [] => .ok []
  | doc :: rest => do
    let a ← item doc
    let as ← items item rest
    return a :: as

def list {α : Type} (item : Decoder α) : Decoder (List α)
  | .list docs stop => do
    let as ← items item docs
    stopFault stop
    return as
  | doc => mismatch "a sequence" doc

/-- The name of one of the variants of an enumeration, or a record whose only member has that
name and the value null. -/
def variant (known : List String) : Decoder String
  | .string token => do
    let name ← ofToken token
    if name ∈ known then return name else throw (.unknownVariant name known)
  | .record ((key, value) :: rest) stop => do
    let name ← ofToken key
    if name ∉ known then throw (.unknownVariant name known)
    match value with
    | .null => pure ()
    | value => mismatch "unit" value
    match rest, stop with
    | [], none => return name
    | [], some ⟨.eofInObject, _⟩ => throw (.grammar .eofInObject)
    | _, _ => throw (.grammar .expectedValue)
  | .record [] (some ⟨.eofInObject, _⟩) => .error (.grammar .eofInValue)
  | .ended => .error (.grammar .eofInValue)
  | .broken place =>
    match place.read with
    | .eofInString | .invalidEscape | .controlCharacter | .loneSurrogate | .unfinishedSurrogate =>
      .error (.grammar place.read)
    | _ => .error (.grammar .expectedValue)
  | _ => .error (.grammar .expectedValue)

/-- The documents of a structure's fields, and the fault of one that is not there. -/
structure Fields where
  given : List (String × Document)
  absent : String → DecodeFault

/-- The name of a field and the decoder of its values. -/
abbrev FieldCheck := String × (Document → Option DecodeFault)

def check {α : Type} (decoder : Decoder α) (doc : Document) : Option DecodeFault :=
  match decoder doc with
  | .ok _ => none
  | .error fault => some fault

def raise (fault : Option DecodeFault) : Except DecodeFault Unit :=
  match fault with
  | some fault => .error fault
  | none => .ok ()

/-- Walks the members of a record. -/
def namedFields (checks : List FieldCheck) (given : List (String × Document)) :
    List (Token String × Document) → Except DecodeFault (List (String × Document))
  | [] => .ok given
  | (key, value) :: rest => do
    let name ← ofToken key
    match checks.lookup name with
    | none =>
      raise ((Document.skim value).map .grammar)
      namedFields checks given rest
    | some fault =>
      if (given.lookup name).isSome then throw (.duplicateField name)
      raise (fault value)
      namedFields checks (given ++ [(name, value)]) rest

/-- Walks the items of a list, as many as there are fields. -/
def placedFields : List FieldCheck → List Document → Except DecodeFault (List (String × Document))
  | (name, fault) :: checks, doc :: docs => do
    raise (fault doc)
    let given ← placedFields checks docs
    return (name, doc) :: given
  | _, _ => .ok []

def fields (structureName : String) (checks : List FieldCheck) : Decoder Fields
  | .record members stop => do
    let given ← namedFields checks [] members
    stopFault stop
    return ⟨given, .missingField⟩
  | .list docs stop => do
    let given ← placedFields checks docs
    if given.length < checks.length then stopFault stop
    return ⟨given, fun _ => .tooShort docs.length structureName checks.length⟩
  | doc => mismatch ("struct " ++ structureName) doc

/-- A list that stands for a structure has to end behind the last field. -/
def closeFields (fieldCount : Nat) : Document → Except DecodeFault Unit
  | .list docs stop =>
    if fieldCount < docs.length then .error (.tooLong docs.length)
    else match stop with
      | none => .ok ()
      | some ⟨.trailingComma, _⟩ => .error (.grammar .trailingComma)
      | some ⟨.eofInList, _⟩ => .error (.grammar .eofInList)
      | some _ => .error (.grammar .trailingCharacters)
  | _ => .ok ()

namespace Fields

def get? {α : Type} (f : Fields) (name : String) (decoder : Decoder α) :
    Except DecodeFault (Option α) :=
  match f.given.lookup name with
  | some doc => (decoder doc).map some
  | none => .ok none

def get {α : Type} (f : Fields) (name : String) (decoder : Decoder α) : Except DecodeFault α := do
  match ← f.get? name decoder with
  | some a => return a
  | none => throw (f.absent name)

def getD {α : Type} (f : Fields) (name : String) (decoder : Decoder α) (default : α) :
    Except DecodeFault α := do
  return (← f.get? name decoder).getD default

end Fields

/-- A structure with the given fields, put together by `build`. -/
def struct {α : Type} (structureName : String) (checks : List FieldCheck)
    (build : Fields → Except DecodeFault α) : Decoder α := fun doc => do
  let a ← build (← fields structureName checks doc)
  closeFields checks.length doc
  return a

mutual

/-- The fault met by those who read a whole document whose containers may be nested so deep. -/
def inspect (depth : Nat) : Document → Option GrammarFault
  | .list docs stop =>
    if depth ≤ 1 then some .tooDeep
    else (inspectItems (depth - 1) docs).or (stop.map Break.read)
  | .record members stop =>
    if depth ≤ 1 then some .tooDeep
    else (inspectMembers (depth - 1) members).or (stop.map Break.read)
  | .broken place => some place.read
  | .ended => some .eofInValue
  | .number (.error fault) | .string (.error fault) => some fault
  | .number (.ok _) | .string (.ok _) | .null | .bool _ => none

def inspectItems (depth : Nat) : List Document → Option GrammarFault
  | [] => none
  | doc :: rest => (inspect depth doc).or (inspectItems depth rest)

def inspectMembers (depth : Nat) : List (Token String × Document) → Option GrammarFault
  | [] => none
  | (.error fault, _) :: _ => some fault
  | (.ok _, doc) :: rest => (inspect depth doc).or (inspectMembers depth rest)

end

/-- The value that a whole text is read as. -/
def ofText {α : Type} (decoder : Decoder α) (text : String) : Except DecodeFault α := do
  let (doc, rest) := Document.read text.toList
  let a ← decoder doc
  if Document.hasTrailing rest then throw (.grammar .trailingCharacters)
  return a

end Decode

end QuoteSearch.Json
