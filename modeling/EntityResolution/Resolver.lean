import EntityResolution.Index.Change
import EntityResolution.Record.Store

/-!
# Resolvers

A `Resolver` answers which indexed entities a set of identifiers may stand for. It guards an index
with a lock, and may have a store to keep the index in and a factory that builds an entity for a
match of which nobody holds an object.

Once someone has given up in the middle of a change the index is not trusted any more, and every
request for the lock fails.
-/

namespace EntityResolution

/-- What stands behind a match. -/
inductive Backing where
  /-- An object that someone holds. -/
  | live (object : Object)
  /-- An object just built from the index entry. -/
  | stub (object : Object)
  | detached
deriving DecidableEq

namespace Backing

/-- The object behind a match. -/
def object? : Backing → Option Object
  | live object => some object
  | stub object => some object
  | detached => none

/-- The object was held before the question came. -/
def isLive : Backing → Bool
  | live _ => true
  | _ => false

end Backing

/-- A match, with its relevance and what stands behind it. -/
structure Candidate where
  key : Key
  relevance : Relevance
  backing : Backing
deriving DecidableEq

/-- An index behind a lock. -/
structure Resolver where
  index : Index := {}
  store : Option Store := none
  factory : Option (Key → List Identifier → Entity) := none
  /-- Matches without an object get one from the factory. -/
  instantiateMissing : Bool := false
  poisoned : Bool := false

namespace Resolver

/-- Takes the lock. -/
def lock (r : Resolver) : Except Fault Index :=
  if r.poisoned then .error .poisoned else .ok r.index

/-- The resolver after someone gave up with the lock taken. -/
def poison (r : Resolver) : Resolver := { r with poisoned := true }

/-- Starts to track entities; says how many keys are new. -/
def register (r : Resolver) (batch : List Object) : Except Fault (Nat × Resolver) := do
  let (count, index) ← ((← r.lock).register batch).mapError .corrupt
  return (count, { r with index })

/-- Brings tracked entities up to date. -/
def update (r : Resolver) (batch : List Object) : Except Fault Resolver := do
  let index ← (← r.lock).update batch
  return { r with index }

/-- Forgets entities; says how many of them were tracked. -/
def unregister (r : Resolver) (batch : List Object) : Except Fault (Nat × Resolver) := do
  let (count, index) ← ((← r.lock).unregister batch).mapError .corrupt
  return (count, { r with index })

/-- The indexed identifiers of a key, in increasing order. -/
def identifiersOf (r : Resolver) (key : Key) : Except Fault (Option (List Identifier)) := do
  return ((← r.lock).get? key).map (·.sortedValid)

/-- Finds the object behind a match, or builds one and links the entry to it. -/
def materialize (r : Resolver) (owners : Owners) (key : Key) :
    Except Corruption (Backing × Resolver × Owners) :=
  match r.index.get? key with
  | none => .error (.noEntry key)
  | some e =>
    match e.liveObject? owners, r.factory, r.instantiateMissing with
    | some object, _, _ => .ok (.live object, r, owners)
    | none, some build, true =>
      let (object, owners) := owners.create (build key e.sortedValid)
      .ok (.stub object, { r with index := r.index.setEntry key (e.attach object) }, owners)
    | none, _, _ => .ok (.detached, r, owners)

/-- Finds out for each match what stands behind it. -/
def materializeAll (r : Resolver) (owners : Owners) :
    List (Key × Relevance) → Except Corruption (List Candidate × Resolver × Owners)
  | [] => .ok ([], r, owners)
  | (key, relevance) :: rest => do
    let (backing, r, owners) ← r.materialize owners key
    let (candidates, r, owners) ← r.materializeAll owners rest
    return (⟨key, relevance, backing⟩ :: candidates, r, owners)

/-- At most `limit` entities that share identifiers with those asked for, the most relevant first.
Repeated identifiers count once; those without a value count, but match nothing. -/
def resolve (r : Resolver) (owners : Owners) (limit : Nat) (ids : List Identifier) :
    Except Fault (List Candidate × Resolver × Owners) := do
  let index ← r.lock
  if ids.isEmpty then throw .emptyQuery
  if limit = 0 then throw .zeroLimit
  let query := SmallSet.ofList ids
  if query.toList.any Identifier.isValid then
    (do r.materializeAll owners (← index.rank limit query)).mapError .corrupt
  else
    return ([], r, owners)

/-- Merges all stored records into the index; says how many of them have an identifier that can be
indexed. What was read before a failure stays merged. -/
def readCache (r : Resolver) (files : FileTree) : Except Fault Nat × Resolver :=
  match r.store, r.lock with
  | none, _ => (.ok 0, r)
  | some _, .error fault => (.error fault, r)
  | some store, .ok index =>
    let reading := store.read files
    let (skipped, index) := index.insertRecords reading.records
    (reading.outcome.map (· - skipped), { r with index })

/-- Stores every entry; says how many there are. An empty index leaves the files alone. -/
def writeCache (r : Resolver) (files : FileTree) : Except Fault Nat × FileTree :=
  match r.store, r.lock with
  | none, _ => (.ok 0, files)
  | some _, .error fault => (.error fault, files)
  | some store, .ok index =>
    if index.isEmpty then (.ok 0, files) else store.write files index.records

/-- Reads the store, and starts with an empty index if that fails. -/
def start (r : Resolver) (files : FileTree) : Nat × Resolver :=
  match r.readCache files with
  | (.ok count, r) => (count, r)
  | (.error _, r) => (0, if r.poisoned then r else { r with index := .empty })

/-- Writes the store, and gives up if that fails. -/
def stop (r : Resolver) (files : FileTree) : Nat × FileTree :=
  match r.writeCache files with
  | (.ok count, files) => (count, files)
  | (.error _, files) => (0, files)

end Resolver

end EntityResolution
