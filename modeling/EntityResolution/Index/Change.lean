import EntityResolution.Fault

/-!
# Changes of the index

`register` starts to track entities, `update` brings tracked ones in line with their objects,
`unregister` forgets them, and `insertRecord` merges a stored record. A batch is worked through in
order, so the last object of a key decides.
-/

namespace EntityResolution.Index

/-- Sets the entry of a key. -/
def setEntry (i : Index) (key : Key) (e : Entry) : Index :=
  { i with entries := i.entries.insert key e }

/-- Forgets a key; says whether it was indexed. -/
def unregisterKey (i : Index) (key : Key) : Except Corruption (Bool × Index) :=
  match i.get? key with
  | none => .ok (false, i)
  | some e => do
    let i ← { i with entries := i.entries.erase key }.unlinkAll key e.identifiers.toList
    return (true, i)

/-- Forgets the entities of a batch; says how many of them were indexed. -/
def unregister (i : Index) (batch : List Object) : Except Corruption (Nat × Index) :=
  batch.foldlM (fun (count, i) object => do
    let (known, i) ← i.unregisterKey object.key
    return (count + known.toNat, i)) (0, i)

/-- Brings the entry of an object's key in line with the object; nothing happens if the key is
not indexed, and an entity without an identifier to match on is forgotten. -/
def refresh (i : Index) (object : Object) : Except Corruption Index :=
  match i.get? object.key with
  | none => .ok i
  | some e => do
    let current := SmallSet.ofList object.entity.validIdentifiers
    let stale := e.identifiers.toList.filter fun identifier => !current.contains identifier
    let fresh := current.toList.filter fun identifier => !e.identifiers.contains identifier
    let kept := (e.identifiers.eraseMany stale).insertMany fresh
    let i := i.setEntry object.key ⟨kept, some object⟩
    let i ← i.unlinkAll object.key stale
    let i := i.linkAll object.key fresh
    if kept.isEmpty then return (← i.unregisterKey object.key).2 else return i

/-- Starts to track one object; says whether its key is new. An entity without an identifier to
match on is passed over. -/
def registerOne (i : Index) (object : Object) : Except Corruption (Bool × Index) :=
  let current := SmallSet.ofList object.entity.validIdentifiers
  if current.isEmpty then .ok (false, i)
  else if i.contains object.key then do return (false, ← i.refresh object)
  else
    let e := (Entry.ofIdentifiers current.toList).attach object
    .ok (true, (i.setEntry object.key e).linkAll object.key current.toList)

/-- Starts to track the entities of a batch; says how many keys are new. -/
def register (i : Index) (batch : List Object) : Except Corruption (Nat × Index) :=
  batch.foldlM (fun (count, i) object => do
    let (new, i) ← i.registerOne object
    return (count + new.toNat, i)) (0, i)

/-- The first key of a batch that is not indexed. -/
def firstUnknown? (i : Index) (batch : List Object) : Option Key :=
  (batch.map Object.key).find? fun key => !i.contains key

/-- Brings the entries of a batch in line with its objects. -/
def refreshAll (i : Index) (batch : List Object) : Except Corruption Index :=
  batch.foldlM refresh i

/-- Brings a batch of tracked entities up to date; nothing changes if one of them is not tracked. -/
def update (i : Index) (batch : List Object) : Except Fault Index :=
  match i.firstUnknown? batch with
  | some key => .error (.unknownEntity key)
  | none => (i.refreshAll batch).mapError .corrupt

/-- Merges a record; says whether it has an identifier that can be indexed. -/
def insertRecord (i : Index) (record : Record) : Bool × Index :=
  let ids := record.validIdentifiers
  if ids.isEmpty then (false, i)
  else
    let e := (i.get? record.key).getD {}
    let (known, added) := e.identifiers.absorb ids
    (true, (i.setEntry record.key { e with identifiers := known }).linkAll record.key added)

/-- Merges records; says how many of them have no identifier that can be indexed. -/
def insertRecords (i : Index) (records : List Record) : Nat × Index :=
  records.foldl (fun (skipped, i) record =>
    let (merged, i) := i.insertRecord record
    (skipped + (!merged).toNat, i)) (0, i)

end EntityResolution.Index
