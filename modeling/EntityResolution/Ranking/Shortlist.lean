import Std.Data.TreeMap

/-!
# Shortlists

A shortlist keeps the best items of a stream, at most `limit` of them, best first. Among items of
equal score the earlier one counts as better. Two things serve as scores:

* The `Relevance` of an entity to a query is the share of the query's identifiers that the entity
  carries. It is kept as the two counts; `Relevance.toFloat` is the quotient as a double.
* A `Score` is a double, given by its 64 bits. The order is IEEE 754's `totalOrder`: negative NaNs,
  `-∞`, the negative numbers, `-0`, `+0`, the positive numbers, `+∞`, positive NaNs.
-/

namespace EntityResolution

/-! ### Relevance -/

/-- How many of the identifiers asked for are shared. -/
structure Relevance where
  shared : Nat
  asked : Nat
deriving DecidableEq

namespace Relevance

/-- Answers to one query are compared by what they share. -/
instance : Ord Relevance := ⟨compareOn shared⟩

instance : Std.TransOrd Relevance := inferInstanceAs (Std.TransCmp (compareOn _))

/-- The quotient, rounded to a double. -/
def toFloat (r : Relevance) : Float := Float.ofNat r.shared / Float.ofNat r.asked

end Relevance

/-! ### Scores -/

/-- A double as its bits. -/
structure Score where
  bits : UInt64
deriving DecidableEq

namespace Score

/-- The number of scores below this one: a set sign bit turns the order of the others round. -/
def position (s : Score) : Nat :=
  let n := s.bits.toNat
  if n < 0x8000000000000000 then n + 0x8000000000000000 else 0xFFFFFFFFFFFFFFFF - n

instance : Ord Score := ⟨compareOn position⟩

instance : Std.TransOrd Score := inferInstanceAs (Std.TransCmp (compareOn _))

instance : Std.LawfulEqOrd Score where
  eq_of_compare {a b} h := by
    have h' : a.position = b.position := Nat.compare_eq_eq.mp h
    have ha := a.bits.toNat_lt
    have hb := b.bits.toNat_lt
    simp only [position] at h'
    have hbits : a.bits.toNat = b.bits.toNat := by split at h' <;> split at h' <;> omega
    cases a; cases b
    exact congrArg mk (UInt64.toNat_inj.mp hbits)

end Score

/-! ### The best of a stream -/

/-- The best items so far, with their scores. -/
structure Shortlist (α : Type) (σ : Type) where
  limit : Nat
  ranked : List (α × σ) := []

namespace Shortlist

variable {α σ : Type} [Ord σ]

/-- Puts an item behind all that score at least as much. -/
def place (item : α × σ) : List (α × σ) → List (α × σ)
  | [] => [item]
  | best :: rest =>
    if (compare best.2 item.2).isLT then item :: best :: rest else best :: place item rest

/-- The shortlist after one more item; the worst one leaves if there are too many. -/
def push (s : Shortlist α σ) (item : α) (score : σ) : Shortlist α σ :=
  { s with ranked := (place (item, score) s.ranked).take s.limit }

/-- The shortlist of a stream of items. -/
def ofList (limit : Nat) (items : List (α × σ)) : Shortlist α σ :=
  items.foldl (fun s item => s.push item.1 item.2) ⟨limit, []⟩

end Shortlist

end EntityResolution
