import EntityResolution.Proofs.SmallSet.Refinement

/-!
# Small sets in place

Insertion and removal told as work on the slots of a row: they are read and written one by one, at
positions that are counted out, and a position where there is no slot ends the work without a
result.  Each of these operations might fail, and none does on a tidy set.

* `closeGapInPlace?_eq`: the slots behind a gap move up one after the other, and the gap is closed.
* `insertInPlace?_eq`, `eraseInPlace?_eq`: the work succeeds, and is what insertion and removal do.
* `stepInPlace?_eq`, `runInPlace?_eq`: so is an operation on one of several sets, and a series of
  them.
* `run_stored`: what a series leaves is stored as it should be.  A row has 2, 4 or 8 slots, some
  members in front and free slots behind them, a hash set has more than 8 members, no two members
  are equal, and a set without members has no storage.
-/

namespace EntityResolution.SmallSet

/-! ### Slots -/

section Slots

variable {α : Type}

/-- Writes a slot, if there is one at the position. -/
def put? (slots : List (Option α)) (position : Nat) (slot : Option α) :
    Option (List (Option α)) :=
  if position < slots.length then some (slots.set position slot) else none

/-- Takes what the next slot holds over to the slot at a position. -/
def pull? (slots : List (Option α)) (position : Nat) : Option (List (Option α)) := do
  let next ← slots[position + 1]?
  let slots ← put? slots (position + 1) none
  put? slots position next

/-- Closes the gap at a position: from there to the last slot but one each slot takes over what the
next one holds, and the last one becomes free. -/
def closeGapInPlace? (slots : List (Option α)) (position : Nat) : Option (List (Option α)) :=
  match slots.length with
  | 0 => none
  | last + 1 => do
    let slots ← (List.range' position (last - position)).foldlM pull? slots
    put? slots last none

/-- Puts members into slots from the front, as long as there are both, and counts them. -/
def fill : List (Option α) → List α → List (Option α) × Nat
  | _ :: slots, a :: members =>
    let (slots, count) := fill slots members
    (some a :: slots, count + 1)
  | slots, _ => (slots, 0)

theorem put?_eq {slots : List (Option α)} {position : Nat} (h : position < slots.length)
    (slot : Option α) : put? slots position slot = some (slots.set position slot) := if_pos h

theorem pull?_append (front back : List (Option α)) (gap next : Option α) :
    pull? (front ++ gap :: next :: back) front.length = some (front ++ next :: none :: back) := by
  have hnext : (front ++ gap :: next :: back)[front.length + 1]? = some next := by simp
  have hset : (front ++ gap :: next :: back).set (front.length + 1) none =
      front ++ gap :: none :: back := by simp
  rw [pull?, hnext, Option.bind_eq_bind, Option.bind_some, put?_eq (by simp), hset,
    Option.bind_eq_bind, Option.bind_some, put?_eq (by simp)]
  simp

/-- The slots behind the gap move up, and the gap moves behind them. -/
theorem foldlM_pull? (front back : List (Option α)) (gap : Option α) :
    ∃ gap', (List.range' front.length back.length).foldlM pull? (front ++ gap :: back) =
      some (front ++ back ++ [gap']) := by
  induction back generalizing front gap with
  | nil => exact ⟨gap, by simp⟩
  | cons next back ih =>
      obtain ⟨gap', hback⟩ := ih (front ++ [next]) none
      refine ⟨gap', ?_⟩
      rw [List.length_cons, List.range'_succ, List.foldlM_cons, pull?_append, Option.bind_eq_bind,
        Option.bind_some]
      simpa using hback

theorem closeGapInPlace?_eq {slots : List (Option α)} {position : Nat}
    (h : position < slots.length) :
    closeGapInPlace? slots position = some (closeGap slots position) := by
  obtain ⟨front, gap, back, rfl, rfl⟩ :
      ∃ front gap back, slots = front ++ gap :: back ∧ position = front.length :=
    ⟨slots.take position, slots[position], slots.drop (position + 1), by simp, by simp; omega⟩
  obtain ⟨gap', hmoved⟩ := foldlM_pull? front back gap
  have hlength : (front ++ gap :: back).length = front.length + back.length + 1 := by simp; omega
  have hcount : front.length + back.length - front.length = back.length := by omega
  have hclosed : closeGap (front ++ gap :: back) front.length = front ++ back ++ [none] := by
    simp [closeGap, List.eraseIdx_append_of_length_le]
  rw [closeGapInPlace?, hlength, hclosed]
  dsimp only
  rw [hcount, hmoved, Option.bind_eq_bind, Option.bind_some, put?_eq (by simp)]
  simp

/-- Slots that are all free, and enough of them, hold the members then. -/
theorem fill_replicate {n : Nat} {members : List α} (h : members.length ≤ n) :
    fill (List.replicate n none) members = (layOut n members, members.length) := by
  induction members generalizing n with
  | nil => cases n <;> simp [fill, layOut, List.replicate_succ]
  | cons a members ih =>
      obtain ⟨m, rfl⟩ : ∃ m, n = m + 1 := ⟨n - 1, by simp only [List.length_cons] at h; omega⟩
      rw [List.replicate_succ, fill, ih (by simpa using h)]
      simp [layOut]

theorem reduceOption_layOut (n : Nat) (members : List α) :
    (layOut n members).reduceOption = members := by
  change (layOut n members).filterMap id = members
  simp [layOut, List.filterMap_append]

end Slots

/-! ### One operation -/

variable {α : Type} [BEq α] [Hashable α]

/-- The set that a full row becomes when an item joins its members. -/
def outgrowInPlace? (slots : List (Option α)) (item : α) : Option (SmallSet α) :=
  let members := slots.reduceOption
  let longer := 2 * slots.length
  if longer ≤ maxSlots then do
    let (grown, count) := fill (List.replicate longer none) members
    return row (← put? grown count (some item))
  else some (hashed ((Std.HashSet.ofList members).insert item))

/-- Insertion, slot by slot. -/
def insertInPlace? : SmallSet α → α → Option (Bool × SmallSet α)
  | empty, item => do return (true, row (← put? (List.replicate firstSlots none) 0 (some item)))
  | row slots, item =>
    match probe item 0 slots with
    | .present => some (false, row slots)
    | .free position => do return (true, row (← put? slots position (some item)))
    | .full => do return (true, ← outgrowInPlace? slots item)
  | hashed members, item => some (!members.contains item, hashed (members.insert item))

/-- A row, or no storage at all if its first slot is free. -/
def ofSlotsInPlace? (slots : List (Option α)) : Option (SmallSet α) := do
  match ← slots[0]? with
  | none => return empty
  | some _ => return row slots

/-- A hash set, or a row if it has few members. -/
def ofHashedInPlace? (members : Std.HashSet α) : Option (SmallSet α) :=
  if members.size ≤ maxSlots then
    let free := List.replicate (max members.size.nextPowerOfTwo firstSlots) none
    ofSlotsInPlace? (fill free members.toList).1
  else some (hashed members)

/-- Removal, slot by slot. -/
def eraseInPlace? : SmallSet α → α → Option (Bool × SmallSet α)
  | empty, _ => some (false, empty)
  | row slots, item =>
    match slots.findIdx? (· == some item) with
    | none => some (false, row slots)
    | some position => do
      return (true, ← ofSlotsInPlace? (← closeGapInPlace? slots position))
  | hashed members, item =>
    if members.contains item then do return (true, ← ofHashedInPlace? (members.erase item))
    else some (false, hashed members)

/-- Insertion of several items, one after the other. -/
def insertManyInPlace? (s : SmallSet α) (items : List α) : Option (SmallSet α) :=
  items.foldlM (fun s item => Prod.snd <$> s.insertInPlace? item) s

theorem ofSlotsInPlace?_eq {slots : List (Option α)} (h : 0 < slots.length) :
    ofSlotsInPlace? slots = some (ofSlots slots) := by
  cases slots with
  | nil => cases h
  | cons slot rest => cases slot <;> rfl

theorem outgrowInPlace?_eq {n : Nat} {members : List α} (hn : 0 < n) (h : members.length = n)
    (item : α) :
    outgrowInPlace? (layOut n members) item = some (outgrow (layOut n members) item) := by
  have hlength : (layOut n members).length = n := length_layOut (Nat.le_of_eq h)
  have hroom : members.length ≤ 2 * n := by omega
  rw [outgrowInPlace?, outgrow, reduceOption_layOut, filled_layOut, hlength, fill_replicate hroom]
  by_cases hs : 2 * n ≤ maxSlots
  · -- the item goes behind the members, and the longer row has a slot there
    have hlt : members.length < (layOut (2 * n) members).length := by
      rw [length_layOut hroom]
      omega
    simp only [hs, if_true, put?_eq hlt]
    rfl
  · simp only [hs, if_false]

/-- **Insertion finds a slot** wherever it writes. -/
theorem insertInPlace?_eq {s : SmallSet α} (h : s.Tidy) (a : α) :
    s.insertInPlace? a = some (s.insert a) := by
  cases s with
  | empty => rfl
  | hashed members => rfl
  | row slots =>
      obtain ⟨n, members, rfl, hn, hl, hne, -⟩ := h.exists_layOut
      rw [insertInPlace?, insert, probe_layOut a 0 hl]
      by_cases ha : members.any (· == a) = true
      · rw [if_pos ha]
      rw [if_neg ha]
      by_cases hlt : members.length < n
      · have hslot : 0 + members.length < (layOut n members).length := by
          rw [length_layOut hl]
          omega
        rw [if_pos hlt]
        dsimp only
        rw [put?_eq hslot]
        rfl
      · have hpos : 0 < n := Nat.lt_of_lt_of_le (List.length_pos_iff.mpr hne) hl
        have hfull : members.length = n := by omega
        rw [if_neg hlt]
        dsimp only
        rw [outgrowInPlace?_eq hpos hfull]
        rfl

/-- A tidy set without members has no storage. -/
theorem Tidy.eq_empty_iff {s : SmallSet α} (h : s.Tidy) : s = empty ↔ s.isEmpty = true := by
  refine ⟨fun hs => hs ▸ rfl, fun he => ?_⟩
  cases s with
  | empty => rfl
  | row slots => exact absurd (List.isEmpty_iff.mp he) h.wellFormed.2.2.1
  | hashed members =>
      have hlt : maxSlots < members.size := h.wellFormed
      rw [isEmpty, Std.HashSet.isEmpty_eq_size_eq_zero, beq_iff_eq] at he
      omega

variable [EquivBEq α] [LawfulHashable α]

/-- A hash set that loses a member has enough slots for the others. -/
theorem ofHashedInPlace?_eq {members : Std.HashSet α} (h : maxSlots ≤ members.size) :
    ofHashedInPlace? members = some (ofHashed members) := by
  rw [ofHashedInPlace?, ofHashed]
  by_cases hs : members.size ≤ maxSlots
  · have h8 : members.size = 8 := Nat.le_antisymm hs h
    have hroom : members.toList.length ≤ max members.size.nextPowerOfTwo firstSlots := by
      rw [Std.HashSet.length_toList, h8]
      decide +kernel
    have hfirst :
        0 < (layOut (max members.size.nextPowerOfTwo firstSlots) members.toList).length := by
      rw [length_layOut hroom]
      exact Nat.lt_of_lt_of_le (by decide) (Nat.le_max_right _ _)
    simp only [hs, if_true, fill_replicate hroom, ofSlotsInPlace?_eq hfirst]
  · simp only [hs, if_false]

/-- **Removal finds a slot** wherever it reads or writes. -/
theorem eraseInPlace?_eq {s : SmallSet α} (h : s.Tidy) (a : α) :
    s.eraseInPlace? a = some (s.erase a) := by
  cases s with
  | empty => rfl
  | row slots =>
      rw [eraseInPlace?, erase]
      cases hp : slots.findIdx? (· == some a) with
      | none => rfl
      | some position =>
          have hlt : position < slots.length := (List.findIdx?_eq_some_iff_findIdx_eq.mp hp).1
          have hfirst : 0 < (closeGap slots position).length := by simp [closeGap]
          simp only [closeGapInPlace?_eq hlt, Option.bind_eq_bind, Option.bind_some,
            ofSlotsInPlace?_eq hfirst]
          rfl
  | hashed members =>
      rw [eraseInPlace?, erase]
      by_cases ha : members.contains a = true
      · have hsize : maxSlots ≤ (members.erase a).size := by
          have hlt : maxSlots < members.size := h.wellFormed
          rw [Std.HashSet.size_erase]
          split <;> omega
        simp only [ha, if_true, ofHashedInPlace?_eq hsize]
        rfl
      · simp only [ha]
        rfl

theorem insertManyInPlace?_eq {s : SmallSet α} (h : s.Tidy) (items : List α) :
    s.insertManyInPlace? items = some (s.insertMany items) := by
  induction items generalizing s with
  | nil => rfl
  | cons a items ih =>
      rw [insertManyInPlace?, List.foldlM_cons, insertInPlace?_eq h a]
      exact ih (h.insert a)

/-! ### Series of operations -/

variable {ι : Type} [DecidableEq ι]

/-- An operation on one of several sets, slot by slot. -/
def stepInPlace? (sets : ι → SmallSet α) : Op ι α → Option (Option Bool × (ι → SmallSet α))
  | .insert i a => do
    let (new, s) ← (sets i).insertInPlace? a
    return (some new, Function.update sets i s)
  | .remove i a => do
    let (found, s) ← (sets i).eraseInPlace? a
    return (some found, Function.update sets i s)
  | .clear i => some (none, Function.update sets i .empty)
  | .extend i items => do
    return (none, Function.update sets i (← (sets i).insertManyInPlace? items))
  | .collect i items => do
    return (none, Function.update sets i (← SmallSet.empty.insertManyInPlace? items))
  | .copy i j => some (none, Function.update sets i (sets j))

/-- The answers of a series of operations, and what it leaves, slot by slot. -/
def runInPlace? (sets : ι → SmallSet α) :
    List (Op ι α) → Option (List (Option Bool) × (ι → SmallSet α))
  | [] => some ([], sets)
  | op :: ops => do
    let (answer, sets) ← stepInPlace? sets op
    let (answers, sets) ← runInPlace? sets ops
    return (answer :: answers, sets)

/-- **An operation on one of several tidy sets** finds its slots. -/
theorem stepInPlace?_eq {sets : ι → SmallSet α} (h : ∀ i, (sets i).Tidy) (op : Op ι α) :
    stepInPlace? sets op = some (step sets op) := by
  cases op with
  | insert i a => rw [stepInPlace?, insertInPlace?_eq (h i)]; rfl
  | remove i a => rw [stepInPlace?, eraseInPlace?_eq (h i)]; rfl
  | clear i => rfl
  | extend i items => rw [stepInPlace?, insertManyInPlace?_eq (h i)]; rfl
  | collect i items => rw [stepInPlace?, insertManyInPlace?_eq tidy_empty]; rfl
  | copy i j => rfl

/-- **A series of operations** on sets that represent finite sets finds its slots, since each
operation leaves such sets to the next. -/
theorem runInPlace?_eq {sets : ι → SmallSet α} {math : ι → Finset (Element α)}
    (h : ∀ i, (sets i).Represents (math i)) (ops : List (Op ι α)) :
    runInPlace? sets ops = some (run step sets ops) := by
  induction ops generalizing sets math with
  | nil => rfl
  | cons op ops ih =>
      have hop := stepInPlace?_eq (fun i => (h i).tidy) op
      have hops := ih (step_refines h op).2
      rw [runInPlace?, hop, Option.bind_eq_bind, Option.bind_some]
      dsimp only
      rw [hops]
      rfl

/-- **How small sets are stored.**  A series of operations on any number of sets that were empty
reads and writes slots that are there, and no others.  After it a row has 2, 4 or 8 slots, in front
the members, of which there is at least one, and free slots behind them; a hash set has more than 8
members; no two members are equal; and a set is empty if and only if it has no storage. -/
theorem run_stored (ops : List (Op ι α)) :
    runInPlace? (fun _ => empty) ops = some (smallRun ops) ∧
      ∀ i,
        (∀ slots, (smallRun ops).2 i = row slots →
          slots.length ∈ [2, 4, 8] ∧
            ∃ members, members ≠ [] ∧ members.length ≤ slots.length ∧
              slots = members.map some ++ List.replicate (slots.length - members.length) none) ∧
        (∀ members, (smallRun ops).2 i = hashed members → 8 < members.size) ∧
        (((smallRun ops).2 i).toList.Pairwise fun a b => (a == b) = false) ∧
        ((smallRun ops).2 i = empty ↔ ((smallRun ops).2 i).isEmpty = true) := by
  have hempty : ∀ _ : ι, (empty : SmallSet α).Represents ∅ := fun _ => represents_empty
  have htidy : ∀ i, ((smallRun ops).2 i).Tidy := fun i => ((represents_run hempty ops).2 i).tidy
  refine ⟨runInPlace?_eq hempty ops, fun i => ⟨fun slots hrow => ?_, fun members hhashed => ?_,
    (htidy i).distinct, (htidy i).eq_empty_iff⟩⟩
  · have h : (row slots).Tidy := hrow ▸ htidy i
    obtain ⟨hn, hpacked, hne, -⟩ := h.wellFormed
    exact ⟨hn, filled slots, hne, length_filled_le slots, hpacked.symm⟩
  · have h : (hashed members).Tidy := hhashed ▸ htidy i
    exact h.wellFormed

/-- The set that has been a hash set and lost half of its numbers is a row of 8 slots. -/
theorem run_stored_thereAndBack :
    runInPlace? (fun _ => empty) thereAndBack = some (smallRun thereAndBack) ∧
      ∃ slots, (smallRun thereAndBack).2 true = row slots ∧ slots.length = 8 := by
  have hmembers := (represents_run (fun _ => represents_empty) thereAndBack).2 true
  have hsize : ((smallRun thereAndBack).2 true).size = 5 := hmembers.size.trans (by decide +kernel)
  obtain ⟨hrun, hstored⟩ := run_stored thereAndBack
  obtain ⟨hrow, hhashed, -, -⟩ := hstored true
  refine ⟨hrun, ?_⟩
  cases hs : (smallRun thereAndBack).2 true with
  | empty =>
      rw [hs] at hsize
      cases hsize
  | hashed members =>
      have hlt := hhashed members hs
      rw [hs, size] at hsize
      omega
  | row slots =>
      refine ⟨slots, rfl, ?_⟩
      obtain ⟨hn, -⟩ := hrow slots hs
      have hle := length_filled_le slots
      rw [hs, size] at hsize
      simp only [List.mem_cons, List.not_mem_nil, or_false] at hn
      omega

end EntityResolution.SmallSet
