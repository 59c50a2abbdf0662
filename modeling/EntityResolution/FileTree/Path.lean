import EntityResolution.Text.Basic

/-!
# Paths, routes and locations

A `Path` is a text as someone wrote it. `Path.route` reads it as a `Route`: where to start, and the
steps to take from there. It keeps the size of the text, since long texts are refused. Where a route
leads is up to the files; a `Location` is a place among them.
-/

namespace EntityResolution

/-- The names from the root down to a file or directory; the root itself has none. -/
abbrev Location := List String

namespace Location

/-- The directory that holds the location; the root holds itself. -/
def parent (l : Location) : Location := l.dropLast

/-- The place of that name in a directory. -/
def child (l : Location) (name : String) : Location := l ++ [name]

end Location

/-- One step of a route. -/
inductive Step where
  /-- To the directory above. -/
  | up
  /-- To the entry of that name. -/
  | into (name : String)
deriving DecidableEq

namespace Step

/-- The text of a step. -/
def text : Step → String
  | up => ".."
  | into name => name

/-- The place that a step leads to. -/
def move (l : Location) : Step → Location
  | up => l.parent
  | into name => l.child name

end Step

/-- A step, and how many bytes of slashes and dots stand in front of it in the text. -/
structure Leg where
  step : Step
  filler : Nat := 1
deriving DecidableEq

/-- The bytes of a leg in the text. -/
def Leg.size (l : Leg) : Nat := l.filler + l.step.text.utf8ByteSize

/-- What stands behind the last step of a route. Anything there, and the route leads to a directory
or nowhere. -/
structure Ending where
  /-- The bytes behind the last step. -/
  size : Nat := 0
  /-- The last part is a dot: the route leads to a directory as such, and does not name an entry that
  could be made or replaced. -/
  isDot : Bool := false
  /-- The last character is a slash. -/
  isSlash : Bool := false
deriving DecidableEq

/-- The way to a file or directory. -/
structure Route where
  /-- The way starts at the root, else where one happens to be. -/
  absolute : Bool := false
  /-- The last leg comes first. -/
  legs : List Leg := []
  ending : Ending := {}
deriving DecidableEq

namespace Route

/-- The bytes of the text of a route. -/
def size (r : Route) : Nat :=
  (if r.absolute then 1 else 0) + r.legs.foldr (fun l n => l.size + n) 0 + r.ending.size

/-- The steps of the way, the last one first. -/
def steps (r : Route) : List Step := r.legs.map Leg.step

/-- The names on the way. -/
def names (r : Route) : List String :=
  r.steps.filterMap fun
    | .up => none
    | .into name => some name

/-- The name at the end, if there is one. -/
def name? (r : Route) : Option String :=
  match r.legs with
  | ⟨.into name, _⟩ :: _ => some name
  | _ => none

/-- The route names an entry of a directory, which could be made or replaced. -/
def namesEntry (r : Route) : Bool := r.name?.isSome && !r.ending.isDot

/-- The route without its last leg. -/
def parent (r : Route) : Route := { r with legs := r.legs.tail, ending := {} }

/-- The route to something in the directory at the end. -/
def child (r : Route) (name : String) : Route :=
  let slash := if r.ending.isSlash || (r.legs.isEmpty && r.ending.size = 0) then 0 else 1
  { r with legs := ⟨.into name, r.ending.size + slash⟩ :: r.legs, ending := {} }

/-- The route to another name: beside the name at the end, or in the directory at the end if there
is no name. -/
def sibling (r : Route) (name : String) : Route :=
  if r.name?.isSome then r.parent.child name else r.child name

/-- A name without its extension: the text before the last dot, if that is not empty. -/
def stem (name : String) : String :=
  let front := (name.toList.reverse.dropWhile (· ≠ '.')).tail.reverse
  if front.isEmpty then name else String.ofList front

/-- The route to the name at the end with another extension; without a name it stays. The extension
is cut off behind its dot, so `..x` gives way to `..`, which is no name any more. -/
def withExtension (r : Route) (extension : String) : Route :=
  match r.legs with
  | ⟨.into name, filler⟩ :: above =>
    if stem name = "." ∧ r.ending.size = 0 then { r with legs := ⟨.up, filler⟩ :: above }
    else
      { r with legs := ⟨.into (stem name ++ "." ++ extension), filler⟩ :: above, ending := {} }
  | _ => r

/-- The places on the way, the last one first, whatever there is at them. -/
def trail (start : Location) : List Step → List Location
  | [] => [start]
  | step :: above =>
    match trail start above with
    | l :: rest => step.move l :: l :: rest
    | [] => []

end Route

/-- A path as it is written. -/
structure Path where
  text : String
deriving DecidableEq

namespace Path

/-- The path starts at the root. -/
def isAbsolute (p : Path) : Bool := p.text.toList.head? == some '/'

/-- The texts between the slashes, without the slash of the root. -/
def parts (p : Path) : List String :=
  (Text.cut '/' (if p.isAbsolute then p.text.toList.tail else p.text.toList)).map String.ofList

/-- The step of a part; an empty part and a dot are none. -/
def stepOf? (part : String) : Option Step :=
  if part = "" ∨ part = "." then none
  else if part = ".." then some .up
  else some (.into part)

/-- The legs of some parts, the first leg first, and the bytes behind the last one. So many bytes
stand in front of the parts already. -/
def legsOf (filler : Nat) : List String → List Leg × Nat
  | [] => ([], filler)
  | part :: rest =>
    let slash := if rest.isEmpty then 0 else 1
    match stepOf? part with
    | none => legsOf (filler + part.utf8ByteSize + slash) rest
    | some step =>
      let (legs, trailing) := legsOf slash rest
      (⟨step, filler⟩ :: legs, trailing)

/-- What so many bytes behind the last leg are, from the last part on. -/
def endingOf (size : Nat) (parts : List String) : Ending where
  size := size
  isDot := (parts.dropWhile (· = "")).head? = some "."
  isSlash := parts.head? = some ""

/-- The way that a path describes. -/
def route (p : Path) : Route :=
  let (legs, trailing) := legsOf 0 p.parts
  { absolute := p.isAbsolute
    legs := legs.reverse
    ending := if trailing = 0 then {} else endingOf trailing p.parts.reverse }

/-- The path of something inside the directory that this path names; an absolute path keeps its
own meaning. -/
def join (p : Path) (inside : String) : Path :=
  if isAbsolute ⟨inside⟩ then ⟨inside⟩
  else if p.text = "" ∨ p.text.toList.getLast? = some '/' then ⟨p.text ++ inside⟩
  else ⟨p.text ++ "/" ++ inside⟩

end Path

end EntityResolution
