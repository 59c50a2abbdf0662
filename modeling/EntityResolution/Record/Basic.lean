import EntityResolution.Entity.Key
import EntityResolution.Identifier.Basic
import EntityResolution.Json.Basic

/-!
# Records

A record is an index entry as it is stored: a key with identifiers, and no object.

In JSON a record is an object with the fields `system_id`, `kind` and `identifiers`, an identifier
one with `schema_id`, `type`, `id` and `context`. An empty value and an absent context are left out,
so an absent context and an empty one stay apart. Each may also be read from an array of its
fields in this order.
-/

namespace EntityResolution

/-- A stored index entry. -/
structure Record where
  key : Key
  identifiers : List Identifier
deriving DecidableEq

namespace Record

/-- The identifiers that can be indexed. -/
def validIdentifiers (r : Record) : List Identifier := r.identifiers.filter Identifier.isValid

end Record

/-! ### Records as JSON -/

namespace Identifier

/-- The JSON text of an identifier. -/
def json (i : Identifier) : List Char :=
  Json.objectText <|
    [("schema_id", Json.quote i.schema), ("type", Json.quote i.type)] ++
    (if i.isValid then [("id", Json.quote i.value)] else []) ++
    (i.context.toList.map fun context => ("context", Json.quote context))

/-- Reads a field that may be missing, for the empty text. -/
def valueOfJson? : Option Json → Option String
  | none => some ""
  | some j => j.text?

/-- Reads a field that may be missing or null, for no text. -/
def contextOfJson? : Option Json → Option (Option String)
  | none => some none
  | some .null => some none
  | some j => j.text?.map some

/-- Reads an identifier. -/
def ofJson? (j : Json) : Option Identifier := do
  match ← j.fields? ["schema_id", "type", "id", "context"] with
  | [some schema, some type, value, context] =>
    return ⟨← schema.text?, ← type.text?, ← valueOfJson? value, ← contextOfJson? context⟩
  | _ => none

end Identifier

namespace Kind

/-- Reads a kind: its name, or an object that has the name as its only key, with null under it. -/
def ofJson? : Json → Option Kind
  | .string (some name) => ofName? name
  | .object [(some name, .null)] => ofName? name
  | _ => none

end Kind

namespace Record

/-- The JSON text of a record; identifiers without a value are left out. -/
def json (r : Record) : List Char :=
  Json.objectText
    [("system_id", Json.quote r.key.id.text), ("kind", Json.quote r.key.kind.name),
      ("identifiers", Json.arrayText (r.validIdentifiers.map Identifier.json))]

/-- Reads a list of identifiers that may be missing. -/
def identifiersOfJson? : Option Json → Option (List Identifier)
  | none => some []
  | some (.array items) => items.mapM Identifier.ofJson?
  | some _ => none

/-- Reads a record. -/
def ofJson? (j : Json) : Option Record := do
  match ← j.fields? ["system_id", "kind", "identifiers"] with
  | [some id, some kind, identifiers] =>
    return ⟨⟨← Uuid.ofText? (← id.text?).toList, ← Kind.ofJson? kind⟩,
      ← identifiersOfJson? identifiers⟩
  | _ => none

end Record

end EntityResolution
