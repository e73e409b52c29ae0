/-!
# UTF-8

The bytes of code points and the characters of byte sequences. A sequence that is no UTF-8 is
cut where a character breaks off: what was read of it up to there counts as one fault.
-/

namespace QuoteSearch.Text

/-- The bytes of a code point in UTF-8. -/
def utf8Bytes (n : Nat) : List Nat :=
  if n < 0x80 then [n]
  else if n < 0x800 then [0xC0 + n / 0x40, 0x80 + n % 0x40]
  else if n < 0x10000 then [0xE0 + n / 0x1000, 0x80 + n / 0x40 % 0x40, 0x80 + n % 0x40]
  else [0xF0 + n / 0x40000, 0x80 + n / 0x1000 % 0x40, 0x80 + n / 0x40 % 0x40, 0x80 + n % 0x40]

def bytesOf (text : List Char) : List Nat := text.flatMap fun c => utf8Bytes c.toNat

inductive Utf8Fault where
  /-- So many bytes do not begin a character. -/
  | invalid (length : Nat)
  /-- The bytes end within a character. -/
  | incomplete
deriving DecidableEq

/-- What a sequence of bytes begins with: a character or a fault, and how many bytes it takes. -/
structure Utf8Step where
  outcome : Except Utf8Fault Char
  length : Nat

def isContinuation (b : Nat) : Bool := 0x80 ≤ b && b ≤ 0xBF

/-- The bytes that may follow the first byte of a character of three or four bytes. -/
def maySecond (first second : Nat) : Bool :=
  if first = 0xE0 then 0xA0 ≤ second && second ≤ 0xBF
  else if first = 0xED then 0x80 ≤ second && second ≤ 0x9F
  else if first = 0xF0 then 0x90 ≤ second && second ≤ 0xBF
  else if first = 0xF4 then 0x80 ≤ second && second ≤ 0x8F
  else isContinuation second

/-- The number of bytes of the character that a byte begins; none begins with zero. -/
def widthOf (first : Nat) : Nat :=
  if first < 0x80 then 1
  else if first < 0xC2 then 0
  else if first < 0xE0 then 2
  else if first < 0xF0 then 3
  else if first < 0xF5 then 4
  else 0

/-- Reads the bytes that are missing of a character. -/
def readTail (point length : Nat) : (missing : Nat) → List Nat → Utf8Step
  | 0, _ => ⟨.ok (Char.ofNat point), length⟩
  | _ + 1, [] => ⟨.error .incomplete, length⟩
  | missing + 1, b :: rest =>
    if isContinuation b then readTail (point * 0x40 + b % 0x40) (length + 1) missing rest
    else ⟨.error (.invalid length), length⟩

def readChar (first : Nat) (rest : List Nat) : Utf8Step :=
  match widthOf first with
  | 0 => ⟨.error (.invalid 1), 1⟩
  | 1 => ⟨.ok (Char.ofNat first), 1⟩
  | 2 => readTail (first % 0x20) 1 1 rest
  | width =>
    match rest with
    | [] => ⟨.error .incomplete, 1⟩
    | second :: _ =>
      if maySecond first second then
        readTail (if width = 3 then first % 0x10 else first % 0x08) 1 (width - 1) rest
      else ⟨.error (.invalid 1), 1⟩

/-- The character that stands for what is no UTF-8. -/
def replacement : Char := '\ufffd'

/-- Decodes bytes, with one replacement for each fault. The next `skip` bytes belong to what was
already decoded. -/
def decodeLossyFrom : (skip : Nat) → List Nat → List Char
  | _, [] => []
  | skip + 1, _ :: rest => decodeLossyFrom skip rest
  | 0, b :: rest =>
    let step := readChar b rest
    (match step.outcome with
      | .ok c => c
      | .error _ => replacement) :: decodeLossyFrom (step.length - 1) rest

def decodeLossy (bytes : List Nat) : List Char := decodeLossyFrom 0 bytes

/-- Decodes bytes up to the first fault, which is given with its position. -/
def decodeFrom : (position skip : Nat) → List Nat → Except (Nat × Utf8Fault) (List Char)
  | _, _, [] => .ok []
  | position, skip + 1, _ :: rest => decodeFrom (position + 1) skip rest
  | position, 0, b :: rest =>
    let step := readChar b rest
    match step.outcome with
    | .ok c => (decodeFrom (position + 1) (step.length - 1) rest).map (c :: ·)
    | .error fault => .error (position, fault)

def decode (bytes : List Nat) : Except (Nat × Utf8Fault) (List Char) := decodeFrom 0 0 bytes

end QuoteSearch.Text
