import EntityResolution.Proofs.Ranking.Shortlist

/-!
# Shortlists and stable sorting

`StablySorted items l` says that `l` is the stream `items` sorted by decreasing score and stably:
no item stands behind a worse one, and the items that tie with a score stand in the order in which
they came.

* `StablySorted.unique`: a stream has one such order.
* `stablySorted_arrange`, `stablySorted_sorted`: putting one item after the other in its place
  leads to it, and so does sorting the stream at the end.
* `ranked_eq_take_sorted`: the shortlist of a stream is the front of the sorted stream.
-/

namespace EntityResolution.Shortlist

variable {α σ : Type} [Ord σ]

/-- The first item is no worse than the second. -/
def noWorse (a b : α × σ) : Bool := (compare b.2 a.2).isLE

/-- The stream sorted by decreasing score. -/
def sorted (items : List (α × σ)) : List (α × σ) := items.mergeSort noWorse

/-- The items that tie with a score. -/
def tied (s : σ) (items : List (α × σ)) : List (α × σ) := items.filter fun x => compare x.2 s = .eq

theorem mem_tied {s : σ} {items : List (α × σ)} {x : α × σ} :
    x ∈ tied s items ↔ x ∈ items ∧ compare x.2 s = .eq := by
  rw [tied, List.mem_filter, decide_eq_true_iff]

theorem tied_append (s : σ) (front back : List (α × σ)) :
    tied s (front ++ back) = tied s front ++ tied s back := List.filter_append ..

theorem tied_cons (s : σ) (x : α × σ) (items : List (α × σ)) :
    tied s (x :: items) = tied s [x] ++ tied s items := tied_append s [x] items

variable [Std.TransOrd σ]

/-- `l` is the stream in decreasing order of scores, and those that tie in the order of the
stream. -/
structure StablySorted (items l : List (α × σ)) : Prop where
  descending : Descending l
  tied_eq : ∀ s, tied s l = tied s items

/-! ### There is one stable order -/

theorem mem_of_tied_eq {l l' : List (α × σ)} (h : ∀ s, tied s l = tied s l') {x : α × σ}
    (hx : x ∈ l) : x ∈ l' := by
  have ht : x ∈ tied x.2 l := mem_tied.mpr ⟨hx, Std.ReflOrd.compare_self⟩
  rw [h] at ht
  exact (mem_tied.mp ht).1

/-- No item is better than the first one. -/
theorem Descending.head_ne_lt {x : α × σ} {l : List (α × σ)} (h : Descending (x :: l))
    {y : α × σ} (hy : y ∈ x :: l) : compare x.2 y.2 ≠ .lt := by
  rcases List.mem_cons.mp hy with rfl | hy
  · rw [Std.ReflOrd.compare_self]
    decide
  · exact (List.pairwise_cons.mp h).1 y hy

theorem eq_of_tied_eq {l l' : List (α × σ)} (h : Descending l) (h' : Descending l')
    (ht : ∀ s, tied s l = tied s l') : l = l' := by
  induction l generalizing l' with
  | nil =>
      refine (List.eq_nil_iff_forall_not_mem.mpr fun x hx => ?_).symm
      exact List.not_mem_nil (mem_of_tied_eq (fun s => (ht s).symm) hx)
  | cons a l ih =>
      cases l' with
      | nil => exact absurd (mem_of_tied_eq ht List.mem_cons_self) List.not_mem_nil
      | cons b l' =>
          -- the first items tie, for each of them is in the other list
          have hab : compare b.2 a.2 = .eq := by
            have hb := h'.head_ne_lt (mem_of_tied_eq ht List.mem_cons_self)
            have ha := h.head_ne_lt (mem_of_tied_eq (fun s => (ht s).symm) List.mem_cons_self)
            rw [Std.OrientedOrd.eq_swap (a := a.2)] at ha
            cases hc : compare b.2 a.2 <;> simp_all
          obtain rfl : a = b := by
            have hs := ht a.2
            rw [tied, tied, List.filter_cons_of_pos (by simp [Std.ReflOrd.compare_self]),
              List.filter_cons_of_pos (by simp [hab])] at hs
            exact (List.cons.inj hs).1
          rw [ih (List.pairwise_cons.mp h).2 (List.pairwise_cons.mp h').2 fun s => ?_]
          have hs := ht s
          rw [tied_cons, tied_cons s a l'] at hs
          exact List.append_cancel_left hs

/-- **There is one stable order.** -/
theorem StablySorted.unique {items l l' : List (α × σ)} (h : StablySorted items l)
    (h' : StablySorted items l') : l = l' :=
  eq_of_tied_eq h.descending h'.descending fun s => (h.tied_eq s).trans (h'.tied_eq s).symm

/-! ### Two ways to it -/

/-- An item is put behind all that tie with it. -/
theorem tied_place {l : List (α × σ)} (h : Descending l) (x : α × σ) (s : σ) :
    tied s (place x l) = tied s l ++ tied s [x] := by
  induction l with
  | nil => rfl
  | cons best rest ih =>
      rw [place]
      split
      · next hlt =>
        -- all the items behind `x` are worse, so none of them ties if `x` does
        by_cases hx : compare x.2 s = .eq
        · have hnone : tied s (best :: rest) = [] := by
            refine List.filter_eq_nil_iff.mpr fun y hy => ?_
            have hbest : compare best.2 x.2 = .lt := by simpa using hlt
            have hle : (compare y.2 best.2).isLE = true := by
              rw [Std.OrientedOrd.eq_swap, Ordering.isLE_swap, Ordering.isGE_iff_ne_lt]
              exact h.head_ne_lt hy
            have hys : compare y.2 s = .lt :=
              Std.TransCmp.lt_of_lt_of_eq (Std.TransCmp.lt_of_isLE_of_lt hle hbest) hx
            simp [hys]
          rw [tied_cons, hnone, List.append_nil, List.nil_append]
        · have hnone : tied s [x] = [] := by simp [tied, hx]
          rw [tied_cons, hnone, List.append_nil, List.nil_append]
      · rw [tied_cons, ih (List.pairwise_cons.mp h).2, ← List.append_assoc, ← tied_cons]

theorem stablySorted_arrange (items : List (α × σ)) : StablySorted items (arrange items) := by
  refine ⟨arrange_pairwise items, fun s => ?_⟩
  have h : ∀ l : List (α × σ), Descending l →
      tied s (items.foldl (fun l x => place x l) l) = tied s l ++ tied s items := by
    induction items with
    | nil => exact fun l _ => (List.append_nil _).symm
    | cons x items ih =>
        intro l hl
        rw [List.foldl_cons, ih _ (hl.place x), tied_place hl, List.append_assoc, ← tied_cons]
  exact h [] List.Pairwise.nil

theorem noWorse_trans (a b c : α × σ) (hab : noWorse a b = true) (hbc : noWorse b c = true) :
    noWorse a c = true :=
  @Std.TransCmp.isLE_trans _ compare _ _ _ _ hbc hab

theorem noWorse_total (a b : α × σ) : (noWorse a b || noWorse b a) = true := by
  rw [noWorse, noWorse, Std.OrientedOrd.eq_swap (a := b.2)]
  cases compare a.2 b.2 <;> rfl

theorem stablySorted_sorted (items : List (α × σ)) : StablySorted items (sorted items) := by
  refine ⟨(List.pairwise_mergeSort noWorse_trans noWorse_total items).imp fun h => ?_,
    fun s => ?_⟩
  · rw [noWorse, Std.OrientedOrd.eq_swap, Ordering.isLE_swap] at h
    exact Ordering.isGE_iff_ne_lt.mp h
  · -- items that tie are in order as they come, and sorting keeps what is in order
    have hties : (tied s items).Pairwise fun a b => noWorse a b = true := by
      refine List.pairwise_of_forall_mem_list fun a ha b hb => ?_
      rw [noWorse, Std.TransCmp.congr_left (mem_tied.mp hb).2, Std.OrientedOrd.eq_swap,
        (mem_tied.mp ha).2]
      rfl
    have hsub := List.sublist_mergeSort noWorse_trans noWorse_total hties List.filter_sublist
    have hsub' := hsub.filter fun x => decide (compare x.2 s = .eq)
    rw [tied, List.filter_filter] at hsub'
    simp only [Bool.and_self] at hsub'
    exact (hsub'.eq_of_length (((List.mergeSort_perm items noWorse).filter _).length_eq.symm)).symm

/-- **The shortlist of a stream is the front of the sorted stream.** -/
theorem ranked_eq_take_sorted (limit : Nat) (items : List (α × σ)) :
    (ofList limit items).ranked = (sorted items).take limit := by
  rw [ranked_ofList, (stablySorted_arrange items).unique (stablySorted_sorted items)]

end EntityResolution.Shortlist
