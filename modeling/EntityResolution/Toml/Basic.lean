/-!
# TOML values and tables

A `Toml` is a value of the format. A `Table` grows by the statements of a file: how it came to be
decides whether a later statement may add to it. `Table.assign?`, `Table.openTable?` and
`Table.openItem?` are the three statements, and each fails where the format forbids it.
-/

namespace EntityResolution

/-- How a table came to be. -/
inductive Origin where
  /-- By a header of its own, or as the file itself. -/
  | header
  /-- On the way to a header further down. -/
  | passed
  /-- By a dotted key. -/
  | dotted
  /-- In braces; nothing can be added any more. -/
  | inline
deriving DecidableEq

/-- A TOML value. -/
inductive Toml where
  | string (text : String)
  | integer (value : Int)
  | float (literal : String)
  | boolean (value : Bool)
  /-- A date, a time or both. -/
  | moment (literal : String)
  | array (items : List Toml)
  | table (origin : Origin) (entries : List (String × Toml))
  /-- The tables that repeated headers in double brackets make, the last one apart. -/
  | tables (earlier : List (List (String × Toml))) (last : List (String × Toml))

namespace Toml

/-- A table with its entries in the order of their first appearance. -/
structure Table where
  origin : Origin := .header
  entries : List (String × Toml) := []

namespace Table

/-- The value under a key. -/
def get? (t : Table) (key : String) : Option Toml :=
  (t.entries.find? fun (k, _) => k == key).map (·.2)

/-- Sets the value under a key, at its place or at the end. -/
def set (t : Table) (key : String) (value : Toml) : Table :=
  if (t.get? key).isSome then
    { t with entries := t.entries.map fun (k, v) => if k == key then (k, value) else (k, v) }
  else { t with entries := t.entries ++ [(key, value)] }

/-- The table as a value. -/
def toml (t : Table) : Toml := .table t.origin t.entries

/-- Changes the table that a path leads to. Tables that are missing on the way are made; the last
table of several stands for all of them. A dotted key goes through no table that has a header. -/
def within? (made : Origin) (change : Table → Option Table) : List String → Table → Option Table
  | [], t => change t
  | key :: path, t =>
    match t.get? key with
    | none => do return t.set key (← within? made change path ⟨made, []⟩).toml
    | some (.table origin entries) =>
      if origin = .inline ∨ (made = .dotted ∧ origin = .header) then none
      else do return t.set key (← within? made change path ⟨origin, entries⟩).toml
    | some (.tables earlier last) => do
      return t.set key (.tables earlier (← within? made change path ⟨.header, last⟩).entries)
    | some _ => none

/-- Sets a key that is not there yet. -/
def add? (t : Table) (key : String) (value : Toml) : Option Table :=
  if (t.get? key).isSome then none else some (t.set key value)

/-- Assigns a value to a key, which a dotted path may stand before. A path leads to a table that
dotted keys have made, and to no other. -/
def assign? (t : Table) (path : List String) (key : String) (value : Toml) : Option Table :=
  within? .dotted (fun target =>
    if path ≠ [] ∧ target.origin ≠ .dotted then none else target.add? key value) path t

/-- Makes the table of a header. It must not be there, unless on the way to another one. -/
def openTable? (t : Table) (path : List String) (key : String) : Option Table :=
  within? .passed (fun target =>
    match target.get? key with
    | none => some (target.set key (.table .header []))
    | some (.table .passed entries) => some (target.set key (.table .header entries))
    | some _ => none) path t

/-- Makes one more table of a header in double brackets. -/
def openItem? (t : Table) (path : List String) (key : String) : Option Table :=
  within? .passed (fun target =>
    match target.get? key with
    | none => some (target.set key (.tables [] []))
    | some (.tables earlier last) => some (target.set key (.tables (earlier ++ [last]) []))
    | some _ => none) path t

end Table

/-- The table of keys and values in braces. -/
def inlineTable? (pairs : List ((List String × String) × Toml)) : Option Toml := do
  let t ← pairs.foldlM (fun (t : Table) ((path, key), value) => t.assign? path key value) {}
  return .table .inline t.entries

/-- A line of a file that says something. -/
inductive Statement where
  | assign (path : List String) (key : String) (value : Toml)
  | openTable (path : List String) (key : String)
  | openItem (path : List String) (key : String)

/-- A file in the making: its table, and the path of the last header. -/
structure Document where
  root : Table := {}
  current : List String := []

namespace Document

/-- Adds a statement. -/
def add? (d : Document) : Statement → Option Document
  | .assign path key value => do
    let root ← d.root.within? .passed (·.assign? path key value) d.current
    return { d with root }
  | .openTable path key => do return ⟨← d.root.openTable? path key, path ++ [key]⟩
  | .openItem path key => do return ⟨← d.root.openItem? path key, path ++ [key]⟩

/-- The file that consists of the statements. -/
def ofStatements? (statements : List Statement) : Option Document := statements.foldlM add? {}

end Document

/-- The values of named fields, from a table or from an array in the order of the names; more than
is named is passed over. A moment has none of the fields. -/
def fields? (names : List String) : Toml → Option (List (Option Toml))
  | .table origin entries => some (names.map (Table.mk origin entries).get?)
  | .array items => some ((items.map some ++ List.replicate names.length none).take names.length)
  | .tables earlier last =>
    let items := (earlier ++ [last]).map fun entries => some (.table .header entries)
    some ((items ++ List.replicate names.length none).take names.length)
  | .moment _ => some (names.map fun _ => none)
  | _ => none

end Toml

end EntityResolution
