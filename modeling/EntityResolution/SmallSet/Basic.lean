import Std.Data.HashSet

/-!
# Small sets

Most sets in an index have up to three members. A `SmallSet` starts without storage, keeps its
first members in a row of two slots, doubles the row as long as it has at most `maxSlots` slots,
and goes over to a hash set beyond that. A hash set that shrinks to `maxSlots` members becomes a
row again, and a set that loses its last member gives its storage up.

In a row the members stand in front and the free slots behind them.
-/

namespace EntityResolution

/-- A finite set that is cheap while it is small. -/
inductive SmallSet (α : Type) [BEq α] [Hashable α] where
  | empty
  | row (slots : List (Option α))
  | hashed (members : Std.HashSet α)

namespace SmallSet

/-- The longest row. -/
def maxSlots : Nat := 8

/-- The row allocated for the first member. -/
def firstSlots : Nat := 2

section Slots

variable {α : Type}

/-- The members in front of the first free slot. -/
def filled : List (Option α) → List α
  | some a :: rest => a :: filled rest
  | _ => []

/-- Members in front, free slots up to the given number behind them. -/
def layOut (slots : Nat) (members : List α) : List (Option α) :=
  members.map some ++ List.replicate (slots - members.length) none

/-- Takes the slot at a position away, moves the later ones up and leaves a free slot at the end. -/
def closeGap (slots : List (Option α)) (position : Nat) : List (Option α) :=
  slots.eraseIdx position ++ [none]

/-- What a look at the slots for an item finds. -/
inductive Probe where
  | present
  | free (position : Nat)
  | full
deriving DecidableEq

/-- Looks at the slots from the given position on, up to the item or the first free slot. -/
def probe [BEq α] (item : α) (position : Nat) : List (Option α) → Probe
  | [] => .full
  | none :: _ => .free position
  | some a :: rest => if a == item then .present else probe item (position + 1) rest

end Slots

variable {α : Type} [BEq α] [Hashable α]

/-- The members, each once; their order is not specified. -/
def toList : SmallSet α → List α
  | empty => []
  | row slots => filled slots
  | hashed members => members.toList

/-- The number of members. -/
def size : SmallSet α → Nat
  | empty => 0
  | row slots => (filled slots).length
  | hashed members => members.size

/-- The set has no member. -/
def isEmpty : SmallSet α → Bool
  | empty => true
  | row slots => (filled slots).isEmpty
  | hashed members => members.isEmpty

/-- The item is a member. -/
def contains : SmallSet α → α → Bool
  | empty, _ => false
  | row slots, item => (filled slots).any (· == item)
  | hashed members, item => members.contains item

/-- The set that a full row becomes when an item joins its members: a row of twice the length, or
a hash set if that would be too long. -/
def outgrow (slots : List (Option α)) (item : α) : SmallSet α :=
  let members := filled slots
  let longer := 2 * slots.length
  if longer ≤ maxSlots then row ((layOut longer members).set members.length (some item))
  else hashed ((Std.HashSet.ofList members).insert item)

/-- The set with the item in it, and whether the item is new. -/
def insert : SmallSet α → α → Bool × SmallSet α
  | empty, item => (true, row ((List.replicate firstSlots none).set 0 (some item)))
  | row slots, item =>
    match probe item 0 slots with
    | .present => (false, row slots)
    | .free position => (true, row (slots.set position (some item)))
    | .full => (true, outgrow slots item)
  | hashed members, item => (!members.contains item, hashed (members.insert item))

/-- A row, or no storage at all if its first slot is free. -/
def ofSlots (slots : List (Option α)) : SmallSet α :=
  if (filled slots).isEmpty then empty else row slots

/-- A hash set, or a row with room for the next power of two if it has few members. -/
def ofHashed (members : Std.HashSet α) : SmallSet α :=
  if members.size ≤ maxSlots then
    ofSlots (layOut (max members.size.nextPowerOfTwo firstSlots) members.toList)
  else hashed members

/-- The set without the item, and whether the item was a member. -/
def erase : SmallSet α → α → Bool × SmallSet α
  | empty, _ => (false, empty)
  | row slots, item =>
    match slots.findIdx? (· == some item) with
    | none => (false, row slots)
    | some position => (true, ofSlots (closeGap slots position))
  | hashed members, item =>
    if members.contains item then (true, ofHashed (members.erase item)) else (false, hashed members)

/-- The set with all the items in it. -/
def insertMany (s : SmallSet α) (items : List α) : SmallSet α :=
  items.foldl (fun s item => (s.insert item).2) s

/-- The set with all the items in it, and those items that were new when their turn came. -/
def absorb (s : SmallSet α) : List α → SmallSet α × List α
  | [] => (s, [])
  | item :: rest =>
    let (new, s) := s.insert item
    let (s, added) := s.absorb rest
    (s, if new then item :: added else added)

/-- The set without any of the items. -/
def eraseMany (s : SmallSet α) (items : List α) : SmallSet α :=
  items.foldl (fun s item => (s.erase item).2) s

/-- The set of the items. -/
def ofList (items : List α) : SmallSet α := empty.insertMany items

/-- Both sets have the same members, however they are stored. -/
def equal (s t : SmallSet α) : Bool := s.size == t.size && s.toList.all t.contains

instance : BEq (SmallSet α) := ⟨equal⟩

/-- The members between braces, given the text of a member. -/
def text (s : SmallSet α) (memberText : α → String) : String :=
  "\x7b" ++ ", ".intercalate (s.toList.map memberText) ++ "\x7d"

end SmallSet

end EntityResolution
