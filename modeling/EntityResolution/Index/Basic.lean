import EntityResolution.Entity.Basic
import EntityResolution.Ranking.Shortlist
import EntityResolution.Record.Basic
import EntityResolution.SmallSet.Basic

/-!
# The index

An `Index` is a pair of maps, each the inverse of the other: `entries` leads from keys to
identifiers, `buckets` from an identifier to the keys that carry it. Only identifiers with a value
are indexed, no bucket is empty and no entry is without identifiers.

An operation that finds the maps out of step stops with a `Corruption`.

`Index.rank` finds the indexed entities that share identifiers with a query, the most relevant
first. It follows the buckets of the queried identifiers, scores each key at its first
appearance, and keeps a shortlist.
-/

namespace EntityResolution

/-! ### Entries

An entry holds the identifiers under which one entity is indexed, and a link to the object that
stood for the entity last. The link does not keep the object alive: it is followed only while
someone else holds the object. -/

/-- What an index holds for one key. -/
structure Entry where
  identifiers : SmallSet Identifier := .empty
  link : Option Object := none

namespace Entry

/-- An entry for the identifiers, without a link. -/
def ofIdentifiers (ids : List Identifier) : Entry := ⟨.ofList ids, none⟩

/-- The entry linked to an object. -/
def attach (e : Entry) (object : Object) : Entry := { e with link := some object }

/-- The entry without a link. -/
def detach (e : Entry) : Entry := { e with link := none }

/-- The linked object, if someone holds it. -/
def liveObject? (e : Entry) (owners : Owners) : Option Object :=
  e.link.filter fun object => owners.isAlive object.handle

/-- Someone holds the linked object. -/
def isLive (e : Entry) (owners : Owners) : Bool := (e.liveObject? owners).isSome

/-- Some identifier has a value. -/
def hasValid (e : Entry) : Bool := e.identifiers.toList.any Identifier.isValid

/-- The identifiers that have a value, in increasing order. -/
def sortedValid (e : Entry) : List Identifier :=
  Identifier.sort (e.identifiers.toList.filter Identifier.isValid)

/-- How many of the identifiers are in the query. -/
def overlap (e : Entry) (query : SmallSet Identifier) : Nat :=
  e.identifiers.toList.countP query.contains

end Entry

/-! ### The two maps -/

/-- The two maps of an index disagree. -/
inductive Corruption where
  /-- An entry lists an identifier that has no bucket. -/
  | noBucket (key : Key) (identifier : Identifier)
  /-- An entry lists an identifier whose bucket does not list the key. -/
  | notListed (key : Key) (identifier : Identifier)
  /-- A key that a bucket lists has no entry. -/
  | noEntry (key : Key)
deriving DecidableEq

/-- Entities by identifier and identifiers by entity. -/
structure Index where
  entries : Std.TreeMap Key Entry := {}
  buckets : Std.TreeMap Identifier (SmallSet Key) := {}

namespace Index

/-- The index of nothing. -/
def empty : Index := {}

/-- The number of indexed entities. -/
def size (i : Index) : Nat := i.entries.size

/-- Nothing is indexed. -/
def isEmpty (i : Index) : Bool := i.entries.isEmpty

/-- The key is indexed. -/
def contains (i : Index) (key : Key) : Bool := i.entries.contains key

/-- The entry of a key. -/
def get? (i : Index) (key : Key) : Option Entry := i.entries[key]?

/-- The keys that carry an identifier. -/
def candidates? (i : Index) (identifier : Identifier) : Option (SmallSet Key) :=
  i.buckets[identifier]?

/-- The first indexed key with this system identifier. -/
def find? (i : Index) (id : Uuid) : Option Key := (Key.candidates id).find? i.contains

/-- The first live object indexed under this system identifier. -/
def lookup? (i : Index) (owners : Owners) (id : Uuid) : Option Object :=
  (Key.candidates id).findSome? fun key => (i.get? key).bind (·.liveObject? owners)

/-- Every entry that holds an identifier with a value, as a record; keys and identifiers are in
increasing order. -/
def records (i : Index) : List Record :=
  (i.entries.toList.filter fun (_, e) => e.hasValid).map fun (key, e) => ⟨key, e.sortedValid⟩

/-- Counts that describe an index. -/
structure Stats where
  entities : Nat
  persons : Nat
  resources : Nat
  tools : Nat
  /-- Identifiers that some entity carries. -/
  identifiers : Nat
  /-- Entries whose object someone holds. -/
  live : Nat
deriving DecidableEq

/-- The number of indexed entities of a kind. -/
def countKind (i : Index) (kind : Kind) : Nat := i.entries.keys.countP (·.kind == kind)

/-- The counts of an index. -/
def stats (i : Index) (owners : Owners) : Stats where
  entities := i.size
  persons := i.countKind .person
  resources := i.countKind .resource
  tools := i.countKind .tool
  identifiers := i.buckets.size
  live := i.entries.values.countP (·.isLive owners)

/-- Lists a key in the bucket of an identifier. -/
def link (i : Index) (key : Key) (identifier : Identifier) : Index :=
  let bucket := i.buckets.getD identifier .empty
  { i with buckets := i.buckets.insert identifier (bucket.insert key).2 }

/-- Takes a key out of the bucket of an identifier; an empty bucket goes. -/
def unlink (i : Index) (key : Key) (identifier : Identifier) : Except Corruption Index :=
  match i.buckets[identifier]? with
  | none => .error (.noBucket key identifier)
  | some bucket =>
    match bucket.erase key with
    | (false, _) => .error (.notListed key identifier)
    | (true, rest) =>
      if rest.isEmpty then .ok { i with buckets := i.buckets.erase identifier }
      else .ok { i with buckets := i.buckets.insert identifier rest }

/-- Lists a key in several buckets. -/
def linkAll (i : Index) (key : Key) (ids : List Identifier) : Index :=
  ids.foldl (fun i identifier => i.link key identifier) i

/-- Takes a key out of several buckets. -/
def unlinkAll (i : Index) (key : Key) (ids : List Identifier) : Except Corruption Index :=
  ids.foldlM (fun i identifier => i.unlink key identifier) i

end Index

end EntityResolution

namespace EntityResolution.Index

/-! ### Ranking -/

/-- The keys in the buckets of the queried identifiers, as they are met. -/
def visited (i : Index) (query : SmallSet Identifier) : List Key :=
  query.toList.flatMap fun identifier => ((i.candidates? identifier).map (·.toList)).getD []

/-- A ranking in progress: the keys scored so far and the best of them. -/
structure Ranking where
  scored : SmallSet Key := .empty
  best : Shortlist Key Relevance

/-- Scores a key, unless it is scored already. -/
def rankStep (i : Index) (query : SmallSet Identifier) (r : Ranking) (key : Key) :
    Except Corruption Ranking :=
  match r.scored.insert key with
  | (false, _) => .ok r
  | (true, scored) =>
    match i.get? key with
    | none => .error (.noEntry key)
    | some e => .ok ⟨scored, r.best.push key ⟨e.overlap query, query.size⟩⟩

/-- Ranks the keys met, in the order of the visits. -/
def rankVisits (i : Index) (limit : Nat) (query : SmallSet Identifier) (visits : List Key) :
    Except Corruption (List (Key × Relevance)) := do
  let r ← visits.foldlM (i.rankStep query) { best := ⟨limit, []⟩ }
  return r.best.ranked

/-- At most `limit` of the entities that share an identifier with the query, the most relevant
first. -/
def rank (i : Index) (limit : Nat) (query : SmallSet Identifier) :
    Except Corruption (List (Key × Relevance)) :=
  i.rankVisits limit query (i.visited query)

end EntityResolution.Index
