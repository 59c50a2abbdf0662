import EntityResolution.Proofs.SmallSet.Storage
import Mathlib.Data.Finset.Card

/-!
# Small sets and mathematical sets

A small set represents a finite set, the elements of which are items up to the equality that the set
compares with (`Element`, `Represents`).  What a set answers and what it lists follow from what it
represents alone: `Represents.size`, `Represents.isEmpty`, `Represents.nodup`,
`Represents.toFinset`, `Represents.beq`.

* `step_refines`: an operation on one of several sets answers what the operation on mathematical
  sets answers, and leaves sets that represent what that operation leaves.
* `run_refines`: so does every series of operations from empty sets, through whatever storage.
-/

namespace EntityResolution.SmallSet

/-! ### Items up to equality -/

section Element

variable (α : Type) [BEq α] [EquivBEq α]

/-- Equality as it is computed. -/
def equality : Setoid α where
  r a b := (a == b) = true
  iseqv := ⟨fun _ => BEq.rfl, BEq.symm, BEq.trans⟩

/-- What equal items have in common. -/
def Element : Type := Quotient (equality α)

end Element

namespace Element

variable {α : Type} [BEq α] [EquivBEq α]

/-- The element that an item stands for. -/
def of (a : α) : Element α := Quotient.mk (equality α) a

theorem of_eq_of_iff {a b : α} : of a = of b ↔ (a == b) = true := Quotient.eq

theorem exists_of (x : Element α) : ∃ a, of a = x := Quotient.exists_rep x

instance : DecidableEq (Element α) :=
  @Quotient.decidableEq α (equality α) fun a b => inferInstanceAs (Decidable ((a == b) = true))

/-- The elements that a list of items stands for. -/
def ofList (items : List α) : Finset (Element α) := (items.map of).toFinset

theorem of_mem_ofList {items : List α} {a : α} :
    of a ∈ ofList items ↔ items.any (· == a) = true := by
  simp [ofList, of_eq_of_iff]

end Element

variable {α : Type} [BEq α] [Hashable α] [EquivBEq α]

/-- A tidy set contains the items of a finite set. -/
structure Represents (s : SmallSet α) (S : Finset (Element α)) : Prop where
  tidy : s.Tidy
  contains : ∀ a, s.contains a = decide (.of a ∈ S)

variable {s t : SmallSet α} {S T : Finset (Element α)}

theorem represents_empty : (empty : SmallSet α).Represents ∅ := ⟨tidy_empty, fun _ => rfl⟩

namespace Represents

/-- The members are listed once. -/
theorem nodup (h : s.Represents S) : (s.toList.map Element.of).Nodup :=
  List.pairwise_map.mpr (h.tidy.distinct.imp fun hab e => by simp [Element.of_eq_of_iff.mp e] at hab)

variable [LawfulHashable α]

/-- All members are listed, and nothing else. -/
theorem toFinset (h : s.Represents S) : Element.ofList s.toList = S := by
  ext x
  obtain ⟨a, rfl⟩ := x.exists_of
  rw [Element.of_mem_ofList, ← contains_eq_any, h.contains, decide_eq_true_iff]

theorem size (h : s.Represents S) : s.size = S.card := by
  rw [← h.toFinset, Element.ofList, List.toFinset_card_of_nodup h.nodup, List.length_map,
    size_eq_length]

theorem isEmpty (h : s.Represents S) : s.isEmpty = decide (S = ∅) := by
  rw [isEmpty_eq_isEmpty_toList, Bool.eq_iff_iff, List.isEmpty_iff_length_eq_zero,
    ← size_eq_length, h.size, Finset.card_eq_zero, decide_eq_true_iff]

/-- Sets are compared by their members. -/
theorem beq (h : s.Represents S) (h' : t.Represents T) : (s == t) = decide (S = T) := by
  have hall : s.toList.all t.contains = true ↔ S ⊆ T := by
    rw [List.all_eq_true, ← h.toFinset]
    constructor
    · intro ha x hx
      obtain ⟨a, hm, rfl⟩ := List.mem_map.mp (List.mem_toFinset.mp hx)
      simpa [h'.contains] using ha a hm
    · intro hsub a hm
      rw [h'.contains, decide_eq_true_iff]
      exact hsub (List.mem_toFinset.mpr (List.mem_map_of_mem hm))
  rw [Bool.eq_iff_iff, decide_eq_true_iff, show (s == t) = s.equal t from rfl, equal,
    Bool.and_eq_true, beq_iff_eq, hall, h.size, h'.size]
  constructor
  · rintro ⟨hcard, hsub⟩
    exact Finset.eq_of_subset_of_card_le hsub (Nat.le_of_eq hcard.symm)
  · rintro rfl
    exact ⟨rfl, Finset.Subset.refl _⟩

/-! ### Each operation on one set -/

theorem insert (h : s.Represents S) (a : α) :
    (s.insert a).1 = decide (.of a ∉ S) ∧ (s.insert a).2.Represents (Insert.insert (.of a) S) := by
  refine ⟨by rw [h.tidy.insert_fst, h.contains, decide_not], h.tidy.insert a, fun b => ?_⟩
  rw [h.tidy.contains_insert, h.contains, Bool.eq_iff_iff]
  simp [Element.of_eq_of_iff, BEq.comm (a := b)]

theorem erase (h : s.Represents S) (a : α) :
    (s.erase a).1 = decide (.of a ∈ S) ∧ (s.erase a).2.Represents (S.erase (.of a)) := by
  refine ⟨by rw [h.tidy.erase_fst, h.contains], h.tidy.erase a, fun b => ?_⟩
  rw [h.tidy.contains_erase, h.contains, Bool.eq_iff_iff]
  simp [Element.of_eq_of_iff, BEq.comm (a := b)]

theorem insertMany (h : s.Represents S) (items : List α) :
    (s.insertMany items).Represents (S ∪ Element.ofList items) := by
  refine ⟨h.tidy.insertMany items, fun b => ?_⟩
  rw [h.tidy.contains_insertMany, h.contains, Bool.eq_iff_iff, Bool.or_eq_true,
    decide_eq_true_iff, decide_eq_true_iff, Finset.mem_union, Element.of_mem_ofList, or_comm]

end Represents

theorem represents_ofList [LawfulHashable α] (items : List α) :
    (SmallSet.ofList items).Represents (Element.ofList items) :=
  Finset.empty_union (Element.ofList items) ▸ represents_empty.insertMany items

/-! ### Series of operations on several sets -/

/-- An operation on one of the sets that `ι` names. -/
inductive Op (ι α : Type) where
  | insert (set : ι) (item : α)
  | remove (set : ι) (item : α)
  | clear (set : ι)
  | extend (set : ι) (items : List α)
  | collect (set : ι) (items : List α)
  | copy (set source : ι)

variable {ι : Type} [DecidableEq ι]

/-- What an operation on small sets answers, if it answers anything, and the sets after it. -/
def step (sets : ι → SmallSet α) : Op ι α → Option Bool × (ι → SmallSet α)
  | .insert i a => (some ((sets i).insert a).1, Function.update sets i ((sets i).insert a).2)
  | .remove i a => (some ((sets i).erase a).1, Function.update sets i ((sets i).erase a).2)
  | .clear i => (none, Function.update sets i .empty)
  | .extend i items => (none, Function.update sets i ((sets i).insertMany items))
  | .collect i items => (none, Function.update sets i (.ofList items))
  | .copy i j => (none, Function.update sets i (sets j))

/-- The same operation on mathematical sets: an insertion answers whether the item was absent, and
a removal whether it was present. -/
def mathStep (sets : ι → Finset (Element α)) : Op ι α → Option Bool × (ι → Finset (Element α))
  | .insert i a =>
    (some (decide (.of a ∉ sets i)), Function.update sets i (Insert.insert (.of a) (sets i)))
  | .remove i a =>
    (some (decide (.of a ∈ sets i)), Function.update sets i ((sets i).erase (.of a)))
  | .clear i => (none, Function.update sets i ∅)
  | .extend i items => (none, Function.update sets i (sets i ∪ Element.ofList items))
  | .collect i items => (none, Function.update sets i (Element.ofList items))
  | .copy i j => (none, Function.update sets i (sets j))

/-- The answers of a series of operations, and what it leaves. -/
def run {σ : Type} (step : σ → Op ι α → Option Bool × σ) (sets : σ) :
    List (Op ι α) → List (Option Bool) × σ
  | [] => ([], sets)
  | op :: ops =>
    let rest := run step (step sets op).2 ops
    ((step sets op).1 :: rest.1, rest.2)

/-- A series of operations on small sets that are empty at first. -/
def smallRun (ops : List (Op ι α)) : List (Option Bool) × (ι → SmallSet α) :=
  run step (fun _ => empty) ops

/-- The same series on mathematical sets. -/
def mathRun (ops : List (Op ι α)) : List (Option Bool) × (ι → Finset (Element α)) :=
  run mathStep (fun _ => ∅) ops

theorem represents_update {sets : ι → SmallSet α} {math : ι → Finset (Element α)}
    (h : ∀ i, (sets i).Represents (math i)) (i : ι) (hs : s.Represents S) (k : ι) :
    (Function.update sets i s k).Represents (Function.update math i S k) := by
  by_cases hk : k = i
  · subst hk
    rwa [Function.update_self, Function.update_self]
  · rw [Function.update_of_ne hk, Function.update_of_ne hk]
    exact h k

variable [LawfulHashable α]

/-- **One operation** answers alike on both sides, and keeps the sets in line. -/
theorem step_refines {sets : ι → SmallSet α} {math : ι → Finset (Element α)}
    (h : ∀ i, (sets i).Represents (math i)) (op : Op ι α) :
    (step sets op).1 = (mathStep math op).1 ∧
      ∀ i, ((step sets op).2 i).Represents ((mathStep math op).2 i) := by
  cases op with
  | insert i a =>
      obtain ⟨hans, hs⟩ := (h i).insert a
      exact ⟨congrArg some hans, represents_update h i hs⟩
  | remove i a =>
      obtain ⟨hans, hs⟩ := (h i).erase a
      exact ⟨congrArg some hans, represents_update h i hs⟩
  | clear i => exact ⟨rfl, represents_update h i represents_empty⟩
  | extend i items => exact ⟨rfl, represents_update h i ((h i).insertMany items)⟩
  | collect i items => exact ⟨rfl, represents_update h i (represents_ofList items)⟩
  | copy i j => exact ⟨rfl, represents_update h i (h j)⟩

/-- **A series of operations** does so as well. -/
theorem represents_run {sets : ι → SmallSet α} {math : ι → Finset (Element α)}
    (h : ∀ i, (sets i).Represents (math i)) (ops : List (Op ι α)) :
    (run step sets ops).1 = (run mathStep math ops).1 ∧
      ∀ i, ((run step sets ops).2 i).Represents ((run mathStep math ops).2 i) := by
  induction ops generalizing sets math with
  | nil => exact ⟨rfl, h⟩
  | cons op ops ih =>
      obtain ⟨hans, hs⟩ := step_refines h op
      obtain ⟨hrest, hend⟩ := ih hs
      exact ⟨congrArg₂ List.cons hans hrest, hend⟩

/-- **Small sets are finite sets.**  After any series of operations on any number of sets that were
empty, the answers are those of the same series on mathematical sets, and each set says of itself
what is true of the mathematical set: what it contains, how large it is, whether it is empty, and in
its list each element once and no other.  Two sets compare equal if and only if the mathematical
sets are. -/
theorem run_refines (ops : List (Op ι α)) :
    (smallRun ops).1 = (mathRun ops).1 ∧
      (∀ i, (∀ a, ((smallRun ops).2 i).contains a = decide (.of a ∈ (mathRun ops).2 i)) ∧
        ((smallRun ops).2 i).size = ((mathRun ops).2 i).card ∧
        ((smallRun ops).2 i).isEmpty = decide ((mathRun ops).2 i = ∅) ∧
        (((smallRun ops).2 i).toList.map Element.of).Nodup ∧
        (((smallRun ops).2 i).toList.map Element.of).toFinset = (mathRun ops).2 i) ∧
      ∀ i j, ((smallRun ops).2 i == (smallRun ops).2 j) =
        decide ((mathRun ops).2 i = (mathRun ops).2 j) := by
  have hempty : ∀ _ : ι, (empty : SmallSet α).Represents ∅ := fun _ => represents_empty
  obtain ⟨hans, h⟩ := represents_run hempty ops
  exact ⟨hans, fun i => ⟨(h i).contains, (h i).size, (h i).isEmpty, (h i).nodup, (h i).toFinset⟩,
    fun i j => (h i).beq (h j)⟩

/-- Ten numbers come and five of them go in one set, and the other five are collected in another:
the first has been a hash set, the second has not. -/
def thereAndBack : List (Op Bool Nat) :=
  [.extend true (List.range 10), .remove true 0, .remove true 1, .remove true 2, .remove true 3,
    .remove true 4, .remove true 4, .collect false [9, 8, 7, 6, 5, 9]]

theorem run_refines_thereAndBack :
    (smallRun thereAndBack).1 =
        [none, some true, some true, some true, some true, some true, some false, none] ∧
      ((smallRun thereAndBack).2 true).size = 5 ∧
      ((smallRun thereAndBack).2 true == (smallRun thereAndBack).2 false) = true := by
  obtain ⟨hans, hsets, heq⟩ := run_refines thereAndBack
  refine ⟨hans.trans (by decide +kernel), (hsets true).2.1.trans (by decide +kernel),
    (heq true false).trans (by decide +kernel)⟩

end EntityResolution.SmallSet
