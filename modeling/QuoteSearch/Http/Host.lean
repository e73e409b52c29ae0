import QuoteSearch.Text.Digit

/-!
# Hosts to listen at

A host is given by the numbers of an address of four bytes, by the groups of an address of
sixteen bytes, or by a name. Only the names of the machine itself are found; there is no service
that knows any others.
-/

namespace QuoteSearch.Http

inductive HostFault where
  /-- The text is neither an address nor a name. -/
  | malformed
  /-- Nobody can be asked for the name. -/
  | notResolved
deriving DecidableEq

def HostFault.message : HostFault → String
  | .malformed => "failed to lookup address information: Name or service not known"
  | .notResolved =>
    "failed to lookup address information: Temporary failure in name resolution"

namespace Host

/-- The number spelled by digits of a base; there has to be one at least. -/
def numberIn? (base : Nat) (digits : List Char) : Option Nat :=
  if digits.isEmpty then none
  else
    digits.foldl (fun n c => do
      let digit ← Text.hexValue? c
      if digit < base then return (← n) * base + digit else none) (some 0)

/-- A part of a numeric address: hexadecimal behind `0x`, octal behind a zero, or decimal. -/
def numericPart? : List Char → Option Nat
  | '0' :: 'x' :: rest | '0' :: 'X' :: rest => numberIn? 16 rest
  | '0' :: rest => numberIn? 8 ('0' :: rest)
  | digits => numberIn? 10 digits

/-- Whether the parts fill four bytes. Each is one byte, but the last fills all that are left. -/
def fillBytes : (bytesLeft : Nat) → List (Option Nat) → Bool
  | _, [] => false
  | bytesLeft, [last] => last.any fun n => n < Nat.pow 256 bytesLeft
  | bytesLeft, part :: rest => part.any (· < 256) && fillBytes (bytesLeft - 1) rest

def isNumeric (host : List Char) : Bool :=
  let parts := host.splitOn '.'
  parts.length ≤ 4 && fillBytes 4 (parts.map numericPart?)

def isGroup (group : List Char) : Bool :=
  group.length ≤ 4 && (numberIn? 16 group).isSome

/-- The number of groups of a part of a grouped address; the last of them may be a numeric address
in full, which counts twice. -/
def groupCount? (part : List Char) : Option Nat :=
  if part.isEmpty then some 0
  else
    let groups := part.splitOn ':'
    let last := groups.getLastD []
    if groups.all isGroup then some groups.length
    else if groups.dropLast.all isGroup && last.count '.' = 3 && isNumeric last then
      some (groups.length + 1)
    else none

/-- The parts in front of and behind the first double colon, if there is one. -/
def splitGap : List Char → Option (List Char × List Char)
  | ':' :: ':' :: rest => some ([], rest)
  | c :: rest => (splitGap rest).map fun (left, right) => (c :: left, right)
  | [] => none

/-- Whether a host is given by eight groups. A double colon stands for all that are left out. -/
def isGrouped (host : List Char) : Bool :=
  match splitGap host with
  | none => groupCount? host == some 8
  | some (left, right) =>
    match groupCount? left, groupCount? right with
    | some a, some b => !left.contains '.' && a + b ≤ 7
    | _, _ => false

/-- A grouped host may stand in brackets, which keep its colons apart from that of the port. -/
def withoutBrackets : List Char → List Char
  | '[' :: rest => if rest.getLast? = some ']' then rest.dropLast else '[' :: rest
  | host => host

def isNameChar (c : Char) : Bool := c.isAlphanum || c == '-' || c == '_' || c == '.'

def isName (host : List Char) : Bool :=
  host.head?.any (· != '-') && host.all isNameChar

def ownNames : List String := ["localhost", "*"]

/-- Why there is no host of this name, if there is none. -/
def fault? (host : String) : Option HostFault :=
  if host ∈ ownNames || isNumeric host.toList || isGrouped (withoutBrackets host.toList) then none
  else if isName host.toList then some .notResolved
  else some .malformed

end Host

end QuoteSearch.Http
