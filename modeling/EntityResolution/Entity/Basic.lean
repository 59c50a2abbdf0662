import EntityResolution.Entity.Key
import EntityResolution.Identifier.Basic
import Std.Data.TreeMap

/-!
# Entities and their owners

An entity is described according to its kind and carries identifiers in the order its owner
gave them, repeated and empty-valued ones included. A blank entity has no description.

Entities are owned outside the index. An `Object` is one entity as its owners hold it; the handle
tells it apart from other objects of equal content. Owners hold objects under names, or as the
results of a query that they keep. An object lives as long as someone holds it.
-/

namespace EntityResolution

/-- What is known of an entity beside its identifiers. -/
inductive Description where
  | person (name : String)
  | resource (location : Option String)
  | tool (name : String) (version : Option String)
deriving DecidableEq

namespace Description

/-- The kind described. -/
def kind : Description → Kind
  | person _ => .person
  | resource _ => .resource
  | tool .. => .tool

/-- The description that says nothing. -/
def blank : Kind → Description
  | .person => person ""
  | .resource => resource none
  | .tool => tool "" none

/-- No descriptive field is set. -/
def isBlank : Description → Bool
  | person name => name == ""
  | resource location => location.isNone
  | tool name version => name == "" && version.isNone

end Description

/-- A person, a resource or a tool. -/
structure Entity where
  id : Uuid
  description : Description
  identifiers : List Identifier
deriving DecidableEq

namespace Entity

/-- The kind of the entity. -/
def kind (e : Entity) : Kind := e.description.kind

/-- The key under which the entity is indexed. -/
def key (e : Entity) : Key := ⟨e.id, e.kind⟩

/-- The entity that carries identifiers only. -/
def blank (key : Key) (identifiers : List Identifier) : Entity :=
  ⟨key.id, .blank key.kind, identifiers⟩

/-- The entity carries identifiers only. -/
def isBlank (e : Entity) : Bool := e.description.isBlank

/-- The identifiers that can be indexed. -/
def validIdentifiers (e : Entity) : List Identifier := e.identifiers.filter Identifier.isValid

end Entity

/-! ### Objects and owners -/

/-- Tells one object apart from all others. -/
structure Handle where
  number : Nat
deriving DecidableEq, Hashable

/-- An entity that owners can hold. -/
structure Object where
  handle : Handle
  entity : Entity
deriving DecidableEq

namespace Object

/-- The key under which the object is indexed. -/
def key (o : Object) : Key := o.entity.key

end Object

/-- Who holds an object. -/
inductive Owner where
  | name (name : String)
  | held (position : Nat)
deriving DecidableEq

/-- All that is owned, and the handle for the next object. -/
structure Owners where
  next : Nat := 0
  named : Std.TreeMap String Object := {}
  held : List Object := []

namespace Owners

/-- Someone holds the object with this handle. -/
def isAlive (o : Owners) (h : Handle) : Bool :=
  o.named.values.any (·.handle == h) || o.held.any (·.handle == h)

/-- The first holder of an object: names in order, then the results kept. -/
def ownerOf? (o : Owners) (h : Handle) : Option Owner :=
  match o.named.toList.find? fun (_, object) => object.handle == h with
  | some (name, _) => some (.name name)
  | none => (o.held.findIdx? (·.handle == h)).map .held

/-- A new object, which nobody holds yet. -/
def create (o : Owners) (entity : Entity) : Object × Owners :=
  (⟨⟨o.next⟩, entity⟩, { o with next := o.next + 1 })

/-- Holds a new object under a name; an object held there before is let go. -/
def put (o : Owners) (name : String) (entity : Entity) : Owners :=
  let (object, o) := o.create entity
  { o with named := o.named.insert name object }

/-- Lets go of the object under a name. -/
def drop (o : Owners) (name : String) : Owners := { o with named := o.named.erase name }

/-- Keeps the objects of a query's result. -/
def keep (o : Owners) (objects : List Object) : Owners := { o with held := o.held ++ objects }

/-- Lets go of all results kept. -/
def release (o : Owners) : Owners := { o with held := [] }

end Owners

end EntityResolution
