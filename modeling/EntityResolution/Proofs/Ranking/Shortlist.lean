import EntityResolution.Ranking.Shortlist
import Std.Data.TreeMap

/-!
# A shortlist is the front of the arranged stream

A shortlist drops the worst item as soon as there are too many.  Nothing is lost by that:
`arrange items` puts the whole stream in order, and the shortlist of the stream is its front of
`limit` items (`ranked_ofList`).  `arrange` keeps every item (`arrange_perm`) and puts no item
behind a worse one (`arrange_pairwise`).
-/

namespace EntityResolution.Shortlist

variable {α σ : Type} [Ord σ]

/-- All items of a stream, best first, and the earlier one first among equals. -/
def arrange (items : List (α × σ)) : List (α × σ) := items.foldl (fun l x => place x l) []

theorem place_perm (x : α × σ) (l : List (α × σ)) : (place x l).Perm (x :: l) := by
  induction l with
  | nil => exact List.Perm.refl [x]
  | cons best rest ih =>
      rw [place]
      split
      · exact List.Perm.refl _
      · exact (ih.cons best).trans (List.Perm.swap x best rest)

/-- Where an item is put among the first `n` hangs on the first `n` only. -/
theorem take_place (x : α × σ) (n : Nat) (l : List (α × σ)) :
    (place x (l.take n)).take n = (place x l).take n := by
  induction l generalizing n with
  | nil => rw [List.take_nil]
  | cons best rest ih =>
      cases n with
      | zero => rw [List.take_zero, List.take_zero]
      | succ n =>
          rw [List.take_succ_cons, place, place]
          split
          · -- `x` stands in front, and the last of the first `n` makes room for it
            rw [List.take_succ_cons, List.take_succ_cons]
            cases n with
            | zero => rfl
            | succ n => rw [List.take_succ_cons, List.take_succ_cons, List.take_take,
                Nat.min_eq_left (Nat.le_succ n)]
          · rw [List.take_succ_cons, List.take_succ_cons, ih]

/-- A shortlist in progress is the front of the arrangement in progress. -/
theorem ranked_foldl_push (limit : Nat) (l items : List (α × σ)) :
    (items.foldl (fun s item => s.push item.1 item.2) (⟨limit, l.take limit⟩ : Shortlist α σ)) =
      ⟨limit, (items.foldl (fun l x => place x l) l).take limit⟩ := by
  induction items generalizing l with
  | nil => rfl
  | cons x items ih =>
      rw [List.foldl_cons, List.foldl_cons, ← ih, push, take_place]

/-- **The shortlist of a stream is the front of the arranged stream.** -/
theorem ranked_ofList (limit : Nat) (items : List (α × σ)) :
    (ofList limit items).ranked = (arrange items).take limit := by
  have h := ranked_foldl_push limit [] items
  rw [List.take_nil] at h
  rw [ofList, h, arrange]

theorem foldl_place_perm (l items : List (α × σ)) :
    (items.foldl (fun l x => place x l) l).Perm (items ++ l) := by
  induction items generalizing l with
  | nil => exact List.Perm.refl l
  | cons x items ih =>
      refine (ih (place x l)).trans ?_
      exact ((place_perm x l).append_left items).trans List.perm_middle

theorem arrange_perm (items : List (α × σ)) : (arrange items).Perm items := by
  simpa [arrange] using foldl_place_perm [] items

variable [Std.TransOrd σ]

/-- No item stands behind a worse one. -/
def Descending (l : List (α × σ)) : Prop := l.Pairwise fun a b => compare a.2 b.2 ≠ .lt

theorem Descending.place {l : List (α × σ)} (h : Descending l) (x : α × σ) :
    Descending (place x l) := by
  induction l with
  | nil => exact List.pairwise_singleton _ _
  | cons best rest ih =>
      obtain ⟨hb, hr⟩ := List.pairwise_cons.mp h
      rw [Shortlist.place]
      by_cases hlt : compare best.2 x.2 = .lt
      · -- `x` is better than `best`, and so than all that is no better than `best`
        rw [if_pos (by rw [hlt]; rfl)]
        refine List.pairwise_cons.mpr ⟨fun y hy hxy => ?_, h⟩
        rcases List.mem_cons.mp hy with rfl | hy
        · exact Std.OrientedCmp.not_lt_of_lt hlt hxy
        · exact hb y hy (Std.TransCmp.lt_trans hlt hxy)
      · rw [if_neg (by simpa using hlt)]
        refine List.pairwise_cons.mpr ⟨fun y hy => ?_, ih hr⟩
        rcases List.mem_cons.mp ((place_perm x rest).mem_iff.mp hy) with rfl | hy
        · exact hlt
        · exact hb y hy

theorem arrange_pairwise (items : List (α × σ)) : Descending (arrange items) := by
  have h : ∀ l : List (α × σ), Descending l →
      Descending (items.foldl (fun l x => Shortlist.place x l) l) := by
    induction items with
    | nil => exact fun _ h => h
    | cons x items ih => exact fun l h => ih (Shortlist.place x l) (h.place x)
  exact h [] List.Pairwise.nil

end EntityResolution.Shortlist
