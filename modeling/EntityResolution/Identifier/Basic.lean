import Std.Data.TreeMap

/-!
# Identifiers

An identifier names an entity from outside: a schema, a type within it, a value, and a context
where the value alone would be ambiguous. An absent context and an empty one differ.

An identifier is written `schema:type:value`, with `|context` after it when there is a context.
In the value and in the context a backslash stands before each `\` and `|`; the schema and the
type are written as they are. The reader takes a backslash before any character for that
character, and the first bare `|` for the start of the context.
-/

namespace EntityResolution

/-- An external identifier of an entity. -/
structure Identifier where
  schema : String
  type : String
  value : String
  context : Option String := none
deriving DecidableEq, Hashable

namespace Identifier

/-- Schema first, then type, value and context; an absent context comes before any other. -/
instance : Ord Identifier where
  compare := compareLex (compareOn schema) <| compareLex (compareOn type) <|
    compareLex (compareOn value) (compareOn context)

instance : Std.TransOrd Identifier := inferInstanceAs (Std.TransCmp (compareLex _ _))

instance : Std.LawfulEqOrd Identifier where
  eq_of_compare {a b} h := by
    have h' := h
    rw [show compare a b = compareLex (compareOn schema) (compareLex (compareOn type)
      (compareLex (compareOn value) (compareOn context))) a b from rfl] at h'
    rw [compareLex_eq_eq, compareLex_eq_eq, compareLex_eq_eq] at h'
    obtain ⟨hs, ht, hv, hc⟩ := h'
    cases a; cases b
    cases Std.LawfulEqOrd.eq_of_compare hs
    cases Std.LawfulEqOrd.eq_of_compare ht
    cases Std.LawfulEqOrd.eq_of_compare hv
    cases Std.LawfulEqOrd.eq_of_compare hc
    rfl

/-- Only an identifier with a value can be indexed, matched or stored. -/
def isValid (i : Identifier) : Bool := i.value != ""

/-- The identifiers in increasing order, repeated ones kept. -/
def sort (ids : List Identifier) : List Identifier := ids.mergeSort fun a b => (compare a b).isLE

end Identifier

end EntityResolution

namespace EntityResolution.Identifier

/-! ### The written form -/

/-- Puts a backslash before each `\` and `|`. -/
def escape (s : List Char) : List Char :=
  s.flatMap fun c => if c = '\\' ∨ c = '|' then ['\\', c] else [c]

/-- The written form as a list of characters. -/
def chars (i : Identifier) : List Char :=
  i.schema.toList ++ ':' :: i.type.toList ++ ':' :: escape i.value.toList ++
    match i.context with
    | none => []
    | some context => '|' :: escape context.toList

/-- The written form. -/
def text (i : Identifier) : String := String.ofList i.chars

/-- Reads escaped text up to the first bare `|`, and hands over what stands after it; nothing is
read when the last character is a bare backslash. -/
def unescape? : List Char → Option (List Char × Option (List Char))
  | [] => some ([], none)
  | '|' :: rest => some ([], some rest)
  | ['\\'] => none
  | '\\' :: c :: rest => (unescape? rest).map fun (part, after) => (c :: part, after)
  | c :: rest => (unescape? rest).map fun (part, after) => (c :: part, after)

/-- The text before the first colon and the text after it. -/
def cutAtColon? : List Char → Option (List Char × List Char)
  | [] => none
  | c :: rest =>
    if c = ':' then some ([], rest) else (cutAtColon? rest).map fun (a, b) => (c :: a, b)

/-- Cuts schema, type and value apart; the value keeps further colons. -/
def ofBody? (body : List Char) (context : Option (List Char)) : Option Identifier := do
  let (schema, rest) ← cutAtColon? body
  let (type, value) ← cutAtColon? rest
  return ⟨String.ofList schema, String.ofList type, String.ofList value, context.map String.ofList⟩

/-- Reads the written form; at most one bare `|` may stand in it. -/
def ofText? (s : List Char) : Option Identifier :=
  match unescape? s with
  | none => none
  | some (body, none) => ofBody? body none
  | some (body, some rest) =>
    match unescape? rest with
    | some (context, none) => ofBody? body (some context)
    | _ => none

end EntityResolution.Identifier
