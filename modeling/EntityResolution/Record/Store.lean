import EntityResolution.Fault
import EntityResolution.FileTree.Basic
import EntityResolution.Record.Basic
import EntityResolution.Text.Basic

/-!
# Stores of records

Records are stored one JSON text a line. The reader splits the bytes at line feeds, drops a
carriage return before one, and passes over blank lines; it stops at the first line that is not
UTF-8 or no record, and what it has read before stays read. The writer stops when the device has
no room left.

A `Store` keeps records in one file. Reading takes a missing file for no records. Writing goes to a
neighbour of the file first, which then replaces it, so that a file is never half written.
-/

namespace EntityResolution

/-! ### Record lines -/

/-- What a reading yields: the records in order, and their count or the reason to stop. -/
structure Reading where
  records : List Record
  outcome : Except Fault Nat

/-- What a writing yields: the bytes accepted, and the count of records or the reason to stop. -/
structure Writing where
  accepted : Bytes
  outcome : Except Fault Nat

/-- Where records are written to. -/
structure Device where
  /-- How many bytes it takes; without a number it takes all. -/
  room : Option Nat := none
  /-- It can be flushed at the end. -/
  flushes : Bool := true

/-- A way to store records. -/
structure Codec where
  encode : List Record → Writing
  decode : Bytes → Reading

namespace RecordLines

/-- The line feed. -/
def lineFeed : UInt8 := 0x0A

/-- The carriage return. -/
def carriageReturn : UInt8 := 0x0D

/-- Takes one carriage return off the end of a line. -/
def dropReturn (line : Bytes) : Bytes :=
  if line.getLast? = some carriageReturn then line.dropLast else line

/-- Splits at line feeds, given the bytes of the current line, last first. Bytes after the last
line feed are a line of their own, in which a carriage return stays. -/
def linesFrom (current : Bytes) : Bytes → List Bytes
  | [] => if current.isEmpty then [] else [current.reverse]
  | b :: rest =>
    if b = lineFeed then dropReturn current.reverse :: linesFrom [] rest
    else linesFrom (b :: current) rest

/-- The lines of a file. -/
def lines (bytes : Bytes) : List Bytes := linesFrom [] bytes

/-- What one line holds: nothing if it is blank, else a record. -/
def readLine (number : Nat) (line : Bytes) : Except Fault (Option Record) :=
  match Utf8.decode? line with
  | none => .error (.file .notUtf8)
  | some text =>
    if Text.AllBlank text then .ok none
    else
      match (Json.parse? text).bind Record.ofJson? with
      | none => .error (.format (.line number))
      | some record => .ok (some record)

/-- Reads lines, of which the first has the given number, after `count` records. -/
def readLines (number count : Nat) : List Bytes → Reading
  | [] => ⟨[], .ok count⟩
  | line :: rest =>
    match readLine number line with
    | .error fault => ⟨[], .error fault⟩
    | .ok none => readLines (number + 1) count rest
    | .ok (some record) =>
      let reading := readLines (number + 1) (count + 1) rest
      { reading with records := record :: reading.records }

/-- Reads a file. -/
def decode (bytes : Bytes) : Reading := readLines 1 0 (lines bytes)

/-- The words of a device without room. -/
def noRoom : String := "no room"

/-- The words of a device that cannot be flushed. -/
def noFlush : String := "no flush"

/-- The bytes of a record without the line feed. -/
def recordBytes (record : Record) : Bytes := Utf8.encode record.json

/-- Writes records to a device that has taken `taken` bytes, last first. A device that fails
within a record spoils the record; one that fails at the line feed is at fault itself. -/
def writeFrom (device : Device) (room : Option Nat) (taken : List Bytes) : List Record → Writing
  | [] =>
    ⟨taken.reverse.flatten,
      if device.flushes then .ok taken.length else .error (.file (.device noFlush))⟩
  | record :: rest =>
    let bytes := recordBytes record
    let line := bytes ++ [lineFeed]
    match room with
    | none => writeFrom device none (line :: taken) rest
    | some room =>
      if line.length ≤ room then writeFrom device (some (room - line.length)) (line :: taken) rest
      else
        ⟨(line.take room :: taken).reverse.flatten,
          if bytes.length ≤ room then .error (.file (.device noRoom))
          else .error (.format (.stopped noRoom))⟩

/-- Writes records to a device. -/
def write (device : Device) (records : List Record) : Writing :=
  writeFrom device device.room [] records

/-- Record lines as a way to store records. -/
def codec : Codec := ⟨write {}, decode⟩

end RecordLines

/-! ### The file -/

/-- A file of records. -/
structure Store where
  target : Route
  codec : Codec := RecordLines.codec

namespace Store

/-- The neighbour that is written first: the target's name with `.tmp` behind it. -/
def temporary (s : Store) : Route := s.target.sibling (s.target.name?.getD "" ++ ".tmp")

/-- There is a file to read. -/
def isPresent (s : Store) (files : FileTree) : Bool := files.isFile s.target

/-- Reads the records. -/
def read (s : Store) (files : FileTree) : Reading :=
  match files.read s.target with
  | .ok content => s.codec.decode content
  | .error _ => ⟨[], .ok 0⟩

/-- Writes the records to the neighbour. -/
def writeTemporary (s : Store) (files : FileTree) (records : List Record) :
    Except Fault Nat × FileTree :=
  let writing := s.codec.encode records
  match files.write s.temporary writing.accepted with
  | .error cause => (.error (.file cause), files)
  | .ok files => (writing.outcome, files)

/-- Replaces the stored records, and says how many there are now. The neighbour does not stay when
the records cannot be written to it. -/
def write (s : Store) (files : FileTree) (records : List Record) :
    Except Fault Nat × FileTree :=
  match files.createDirectories s.target.parent with
  | (.error cause, files) => (.error (.file cause), files)
  | (.ok (), files) =>
    match s.writeTemporary files records with
    | (.error fault, files) => (.error fault, files.removeFile s.temporary)
    | (.ok count, files) =>
      match files.rename s.temporary s.target with
      | .error cause => (.error (.file cause), files)
      | .ok files => (.ok count, files)

end Store

end EntityResolution
