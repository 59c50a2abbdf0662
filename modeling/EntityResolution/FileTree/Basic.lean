import EntityResolution.FileTree.Path
import EntityResolution.Text.Utf8
import Std.Data.TreeMap

/-!
# File trees

A `FileTree` says what there is at each location, and where relative routes start.

A walk follows a route through a file tree, step by step. Every step starts in a directory that is
really there, `..` included, so what a route means hangs on the tree. `FileTree.place` is where a
route ends, `FileTree.look` what stands there.

An operation on files does its work or stops with the cause. Only `createDirectories` may have done
a part of its work when it stops.
-/

namespace EntityResolution

/-- Why an operation on files fails. -/
inductive FileError where
  | notFound
  | busy
  | exists
  | notDirectory
  | isDirectory
  | nameTooLong
  /-- A name holds the character that ends a text for the machine. -/
  | nulByte
  | notUtf8
  /-- A device refuses to go on, with its own words. -/
  | device (words : String)
deriving DecidableEq

namespace FileError

/-- The words for the cause. -/
def message : FileError → String
  | notFound => "No such file or directory (os error 2)"
  | busy => "Device or resource busy (os error 16)"
  | .exists => "File exists (os error 17)"
  | notDirectory => "Not a directory (os error 20)"
  | isDirectory => "Is a directory (os error 21)"
  | nameTooLong => "File name too long (os error 36)"
  | nulByte => "file name contained an unexpected NUL byte"
  | notUtf8 => "stream did not contain valid UTF-8"
  | device words => words

end FileError

/-- What can stand at a location. -/
inductive Node where
  | file (content : Bytes)
  | directory
deriving DecidableEq

/-- The files and directories below a root that is always there. -/
structure FileTree where
  nodes : Std.TreeMap Location Node := {}
  /-- The directory where relative routes start. -/
  here : Location := []

namespace FileTree

/-- What stands at a location. -/
def node? (t : FileTree) : Location → Option Node
  | [] => some .directory
  | l => t.nodes[l]?

/-- The tree with a node set. -/
def set (t : FileTree) (l : Location) (n : Node) : FileTree := { t with nodes := t.nodes.insert l n }

/-- The tree with a node taken out. -/
def erase (t : FileTree) (l : Location) : FileTree := { t with nodes := t.nodes.erase l }

/-- The tree without what stands at the location, and without all below it. -/
def eraseAll (t : FileTree) (l : Location) : FileTree :=
  { t with nodes := t.nodes.filter fun place _ => !l.isPrefixOf place }

/-- The paths of all that stands below a location; those of directories end in a slash. -/
def listing (t : FileTree) (l : Location) : List String :=
  let below := t.nodes.toList.filter fun (place, _) => l.isPrefixOf place && place != l
  let texts := below.map fun (place, n) =>
    "/".intercalate (place.drop l.length) ++ if n = .directory then "/" else ""
  texts.mergeSort fun a b => (compare a b).isLE

end FileTree

/-! ### Walks -/

namespace Route

/-- A name has at most so many bytes. -/
def maxName : Nat := 255

/-- The text of a route has fewer bytes than this. -/
def sizeLimit : Nat := 4096

/-- Why a route is refused before its first step. -/
def refusal? (r : Route) : Option FileError :=
  if r.names.any fun name => name.toList.contains '\x00' then some .nulByte
  else if r.size = 0 then some .notFound
  else if sizeLimit ≤ r.size then some .nameTooLong
  else none

end Route

namespace FileTree

/-- Lets through where a directory stands. -/
def requireDirectory (t : FileTree) (l : Location) : Except FileError Unit :=
  match t.node? l with
  | some .directory => .ok ()
  | some (.file _) => .error .notDirectory
  | none => .error .notFound

/-- Takes one step; nothing has to be where it ends. -/
def step (t : FileTree) (l : Location) (s : Step) : Except FileError Location := do
  t.requireDirectory l
  match s with
  | .up => return l.parent
  | .into name =>
    if Route.maxName < name.utf8ByteSize then throw .nameTooLong else return l.child name

/-- Takes the steps of a route, whose last one comes first. -/
def walk (t : FileTree) (start : Location) : List Step → Except FileError Location
  | [] => .ok start
  | s :: above => do t.step (← t.walk start above) s

/-- Where a route starts. -/
def start (t : FileTree) (r : Route) : Location := if r.absolute then [] else t.here

/-- Where a route ends, whether or not something is there. -/
def place (t : FileTree) (r : Route) : Except FileError Location :=
  match r.refusal? with
  | some cause => .error cause
  | none => t.walk (t.start r) r.steps

/-- What stands at the end of a route. -/
def look (t : FileTree) (r : Route) : Except FileError Node := do
  match t.node? (← t.place r), r.ending.size with
  | none, _ => throw .notFound
  | some (.file content), 0 => return .file content
  | some (.file _), _ => throw .notDirectory
  | some .directory, _ => return .directory

/-- Something is at the end of the route. -/
def isPresent (t : FileTree) (r : Route) : Bool := (t.look r).isOk

/-- A file is at the end of the route. -/
def isFile (t : FileTree) (r : Route) : Bool :=
  match t.look r with
  | .ok (.file _) => true
  | _ => false

/-- A directory is at the end of the route. -/
def isDirectory (t : FileTree) (r : Route) : Bool :=
  match t.look r with
  | .ok .directory => true
  | _ => false

/-- The content of a file. -/
def read (t : FileTree) (r : Route) : Except FileError Bytes := do
  match ← t.look r with
  | .file content => return content
  | .directory => throw .isDirectory

/-- The place of the entry that a route names. A route that names none is refused: for what stops
it on the way, else for the cause given. -/
def entryPlace (t : FileTree) (r : Route) (otherwise : FileError) : Except FileError Location :=
  if r.namesEntry then t.place r
  else do
    let _ ← t.look r
    throw otherwise

end FileTree

end EntityResolution

namespace EntityResolution.FileTree

/-! ### Changes -/

/-- Writes a file, new or in the place of an old one; its directory has to be there. -/
def write (t : FileTree) (r : Route) (content : Bytes) : Except FileError FileTree := do
  let l ← t.entryPlace r .isDirectory
  if r.ending.isSlash ∨ t.node? l = some .directory then throw .isDirectory
  return t.set l (.file content)

/-- Makes a directory where nothing is yet. -/
def createDirectory (t : FileTree) (r : Route) : Except FileError FileTree := do
  let l ← t.entryPlace r .exists
  if (t.node? l).isSome then throw .exists
  return t.set l .directory

/-- Makes a directory unless there is one. -/
def ensureDirectory (t : FileTree) (r : Route) : Except FileError FileTree :=
  match t.createDirectory r with
  | .ok t => .ok t
  | .error cause => if t.isDirectory r then .ok t else .error cause

/-- Makes the directory at the end of some legs, and first those on the way that are missing. -/
def createLegs (t : FileTree) (absolute : Bool) :
    List Leg → Ending → Except FileError Unit × FileTree
  | [], _ => (.ok (), t)
  | leg :: above, ending =>
    match t.ensureDirectory ⟨absolute, leg :: above, ending⟩ with
    | .ok t => (.ok (), t)
    | .error .notFound =>
      match t.createLegs absolute above {} with
      | (.error cause, t) => (.error cause, t)
      | (.ok (), t) =>
        match t.ensureDirectory ⟨absolute, leg :: above, ending⟩ with
        | .ok t => (.ok (), t)
        | .error cause => (.error cause, t)
    | .error cause => (.error cause, t)

/-- Makes a directory, and those on the way that are missing. Those made before something stops it
stay. -/
def createDirectories (t : FileTree) (r : Route) : Except FileError Unit × FileTree :=
  t.createLegs r.absolute r.legs r.ending

/-- Moves a file to another place, over a file that may be there. -/
def rename (t : FileTree) (source target : Route) : Except FileError FileTree := do
  let content ← t.read source
  let old ← t.place source
  let new ← t.entryPlace target .busy
  if target.ending.isSlash then throw .notDirectory
  if t.node? new = some .directory then throw .isDirectory
  return (t.erase old).set new (.file content)

/-- Removes a file; anything else stays. -/
def removeFile (t : FileTree) (r : Route) : FileTree :=
  match t.isFile r, t.place r with
  | true, .ok l => t.erase l
  | _, _ => t

/-- Removes whatever stands at the end of the route, with all below it. -/
def removeAll (t : FileTree) (r : Route) : FileTree :=
  match t.isPresent r, t.place r with
  | true, .ok l => t.eraseAll l
  | _, _ => t

end EntityResolution.FileTree
