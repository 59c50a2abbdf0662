/-!
# UTF-8

Bytes are lists of `UInt8`. `Utf8.encode` writes characters as bytes, `Utf8.decode?` reads them
back and refuses anything else, and `Utf8.decodeLossy` puts U+FFFD in the place of each longest
start of a character that is not completed.

The reader is a machine: between two bytes it either stands before a character or holds a
`Pending` one, with the range in which the next byte has to lie. The ranges rule out overlong
forms, surrogates and numbers above U+10FFFF.
-/

namespace EntityResolution

/-- The content of a file. -/
abbrev Bytes := List UInt8

namespace Utf8

/-- The bytes of a text. -/
def encode (s : List Char) : Bytes := s.flatMap String.utf8EncodeChar

/-- A character of which the first bytes are read. -/
structure Pending where
  /-- The payload bits of the bytes read so far. -/
  value : Nat
  /-- How many bytes follow after the next one. -/
  later : Nat
  /-- The least value of the next byte. -/
  low : UInt8
  /-- The greatest value of the next byte. -/
  high : UInt8
deriving DecidableEq

/-- What the first byte of a character says. -/
inductive Lead where
  | whole (c : Char)
  | start (pending : Pending)
  | invalid
deriving DecidableEq

/-- The role of a byte that stands first. -/
def lead (b : UInt8) : Lead :=
  if b < 0x80 then .whole (Char.ofNat b.toNat)
  else if b < 0xC2 then .invalid
  else if b < 0xE0 then .start ⟨b.toNat - 0xC0, 0, 0x80, 0xBF⟩
  else if b = 0xE0 then .start ⟨0, 1, 0xA0, 0xBF⟩
  else if b = 0xED then .start ⟨0x0D, 1, 0x80, 0x9F⟩
  else if b < 0xF0 then .start ⟨b.toNat - 0xE0, 1, 0x80, 0xBF⟩
  else if b = 0xF0 then .start ⟨0, 2, 0x90, 0xBF⟩
  else if b < 0xF4 then .start ⟨b.toNat - 0xF0, 2, 0x80, 0xBF⟩
  else if b = 0xF4 then .start ⟨4, 2, 0x80, 0x8F⟩
  else .invalid

/-- What a byte makes of a pending character: the finished character, a longer start, or nothing
if the byte does not continue it. -/
def Pending.next (p : Pending) (b : UInt8) : Lead :=
  if b < p.low ∨ p.high < b then .invalid
  else
    let value := 64 * p.value + (b.toNat - 0x80)
    match p.later with
    | 0 => .whole (Char.ofNat value)
    | later + 1 => .start ⟨value, later, 0x80, 0xBF⟩

/-- Reads bytes after a pending character, if there is one. -/
def decodeFrom? : Option Pending → Bytes → Option (List Char)
  | none, [] => some []
  | some _, [] => none
  | state, b :: rest =>
    match (match state with | none => lead b | some p => p.next b) with
    | .whole c => (c :: ·) <$> decodeFrom? none rest
    | .start p => decodeFrom? (some p) rest
    | .invalid => none

/-- The text that the bytes encode. -/
def decode? (bytes : Bytes) : Option (List Char) := decodeFrom? none bytes

/-- The replacement character U+FFFD. -/
def replacement : Char := Char.ofNat 0xFFFD

/-- As `decodeFrom?`, with the replacement character for each start that is not completed. -/
def decodeLossyFrom : Option Pending → Bytes → List Char
  | none, [] => []
  | some _, [] => [replacement]
  | none, b :: rest =>
    match lead b with
    | .whole c => c :: decodeLossyFrom none rest
    | .start p => decodeLossyFrom (some p) rest
    | .invalid => replacement :: decodeLossyFrom none rest
  | some p, b :: rest =>
    match p.next b with
    | .whole c => c :: decodeLossyFrom none rest
    | .start q => decodeLossyFrom (some q) rest
    | .invalid =>
      replacement ::
        match lead b with
        | .whole c => c :: decodeLossyFrom none rest
        | .start q => decodeLossyFrom (some q) rest
        | .invalid => replacement :: decodeLossyFrom none rest

/-- The text that the bytes encode, with U+FFFD for what is not UTF-8. -/
def decodeLossy (bytes : Bytes) : List Char := decodeLossyFrom none bytes

end Utf8

end EntityResolution
