import EntityResolution.Text.Basic
import Std.Data.TreeMap

/-!
# Entity keys

An index holds no entities. It knows each by its `Key`, the system identifier with the kind.

The system identifier is a `Uuid`, 128 bits. `Uuid.text` is its canonical text, lower case with
hyphens; `Uuid.ofText?` also reads the plain 32 digits, the braced form and the URN.
-/

namespace EntityResolution

/-! ### Universally unique identifiers -/

/-- A universally unique identifier. -/
structure Uuid where
  bits : BitVec 128
deriving DecidableEq, Hashable

namespace Uuid

/-- Identifiers are ordered as their 16 bytes are. -/
instance : Ord Uuid := ⟨compareOn fun u => u.bits.toNat⟩

instance : Std.TransOrd Uuid := inferInstanceAs (Std.TransCmp (compareOn _))

instance : Std.LawfulEqOrd Uuid where
  eq_of_compare {u v} h := by
    have h' : u.bits.toNat = v.bits.toNat := Nat.compare_eq_eq.mp h
    cases u; cases v
    exact congrArg Uuid.mk (BitVec.eq_of_toNat_eq h')

/-- The 32 hexadecimal digits. -/
def digits (u : Uuid) : List Char := Text.hexDigits 32 u.bits.toNat

/-- Puts a hyphen after each of the first four groups of 8, 4, 4, 4 and 12 digits. -/
def hyphenate (ds : List Char) : List Char :=
  ds.take 8 ++ '-' :: (ds.drop 8).take 4 ++ '-' :: (ds.drop 12).take 4 ++
    '-' :: (ds.drop 16).take 4 ++ '-' :: ds.drop 20

/-- The canonical text: lower-case digits in five groups joined by hyphens. -/
def text (u : Uuid) : String := String.ofList (hyphenate u.digits)

/-- Reads 32 digits. -/
def ofDigits? (ds : List Char) : Option Uuid :=
  if ds.length = 32 then (Text.hexNumber? ds).map fun n => ⟨BitVec.ofNat 128 n⟩ else none

/-- The digits without the four hyphens, if these stand where `hyphenate` puts them. -/
def unhyphenate? (s : List Char) : Option (List Char) :=
  if s.length = 36 ∧ [8, 13, 18, 23].all fun i => s[i]? = some '-' then
    some (s.take 8 ++ (s.drop 9).take 4 ++ (s.drop 14).take 4 ++ (s.drop 19).take 4 ++ s.drop 24)
  else none

/-- Reads the canonical form, with digits in either case. -/
def ofHyphenated? (s : List Char) : Option Uuid := do ofDigits? (← unhyphenate? s)

/-- The text between a brace on each side. -/
def unbrace? (s : List Char) : Option (List Char) :=
  if s.head? = some '{' ∧ s.getLast? = some '}' then some s.tail.dropLast else none

/-- The text after `urn:uuid:`, in either case. -/
def afterUrn? (s : List Char) : Option (List Char) :=
  if (s.take 9).map Char.toLower = "urn:uuid:".toList then some (s.drop 9) else none

/-- Reads 32 digits, or the hyphenated form, bare, in braces or after `urn:uuid:`. -/
def ofText? (s : List Char) : Option Uuid :=
  ofDigits? s <|> ofHyphenated? s <|> (unbrace? s).bind ofHyphenated? <|>
    (afterUrn? s).bind ofHyphenated?

end Uuid

/-! ### Kinds -/

/-- What an entity is. -/
inductive Kind where
  | person
  | resource
  | tool
deriving DecidableEq, Hashable

namespace Kind

/-- Every kind, in increasing order. -/
def all : List Kind := [person, resource, tool]

/-- Persons come before resources, resources before tools. -/
def rank : Kind → Nat
  | person => 0
  | resource => 1
  | tool => 2

instance : Ord Kind := ⟨compareOn rank⟩

instance : Std.TransOrd Kind := inferInstanceAs (Std.TransCmp (compareOn _))

instance : Std.LawfulEqOrd Kind where
  eq_of_compare {a b} h := by
    have h' : a.rank = b.rank := Nat.compare_eq_eq.mp h
    cases a <;> cases b <;> simp_all [rank]

/-- The name of the kind. -/
def name : Kind → String
  | person => "Person"
  | resource => "Resource"
  | tool => "Tool"

/-- The kind of that very name. -/
def ofName? (name : String) : Option Kind := all.find? fun kind => kind.name = name

/-- Reads a name in any mixture of ASCII cases, with blanks around it. -/
def ofText? (s : List Char) : Option Kind :=
  all.find? fun kind =>
    kind.name.toList.map Char.toLower = (Text.trim s).map Char.toLower

end Kind

/-! ### Keys -/

/-- The key of an entity. -/
structure Key where
  id : Uuid
  kind : Kind
deriving DecidableEq, Hashable

namespace Key

/-- The identifier first, then the kind. -/
instance : Ord Key := ⟨compareLex (compareOn id) (compareOn kind)⟩

instance : Std.TransOrd Key := inferInstanceAs (Std.TransCmp (compareLex _ _))

instance : Std.LawfulEqOrd Key where
  eq_of_compare {a b} h := by
    have h' := h
    rw [show compare a b = compareLex (compareOn id) (compareOn kind) a b from rfl] at h'
    rw [compareLex_eq_eq] at h'
    obtain ⟨hi, hk⟩ := h'
    cases a; cases b
    cases Std.LawfulEqOrd.eq_of_compare hi
    cases Std.LawfulEqOrd.eq_of_compare hk
    rfl

/-- The kind and the identifier with a space between. -/
def text (k : Key) : String := k.kind.name ++ " " ++ k.id.text

/-- The keys that an identifier may stand for, one of each kind. -/
def candidates (id : Uuid) : List Key := Kind.all.map (Key.mk id)

end Key

end EntityResolution
