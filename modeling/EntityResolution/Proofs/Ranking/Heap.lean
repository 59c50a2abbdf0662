import EntityResolution.Proofs.Ranking.Sorting
import EntityResolution.Ranking.Shortlist

/-!
# Shortlists kept in a heap

The best items of a stream can be kept without any order among them.  A `Heap` stamps each item with
the number of items before it, and when it holds more than `limit` items the worst one leaves: that
of the least score, and of several such the one with the greatest stamp.  The items that are left
are put in order when the stream has ended (`Heap.drain`).

What carries the proof is that an item that has left is no better than any item that stays, then
and later on (`Heap.Best`).  So the items left are the front of the stamped stream in order, and
without the stamps that is the front of the stable order (`Heap.drain_ofList`).  A heap and a
shortlist that stays sorted give the same, whatever the scores (`keeps_stable_front`).
-/

namespace EntityResolution

namespace Shortlist

/-- An item of a stream with its score, and the number of items before it. -/
abbrev Stamped (α σ : Type) := (α × σ) × Nat

/-- The better item is the one of the greater score, and of two that tie the earlier one. -/
def rankOrder {α σ : Type} [Ord σ] (a b : Stamped α σ) : Ordering :=
  (compare a.1.2 b.1.2).then (compare b.2 a.2)

/-- The best items of a stream, in no order. -/
structure Heap (α σ : Type) where
  limit : Nat
  count : Nat := 0
  items : List (Stamped α σ) := []

namespace Heap

variable {α σ : Type} [Ord σ]

/-- All but the worst of some items, where `worst` is the worst of those in front of them. -/
def carry (worst : Stamped α σ) : List (Stamped α σ) → List (Stamped α σ)
  | [] => []
  | x :: rest => if (rankOrder x worst).isLT then worst :: carry x rest else x :: carry worst rest

/-- All but the worst of some items. -/
def dropWorst : List (Stamped α σ) → List (Stamped α σ)
  | [] => []
  | x :: rest => carry x rest

/-- The items, without the worst if there are too many. -/
def trim (limit : Nat) (items : List (Stamped α σ)) : List (Stamped α σ) :=
  if limit < items.length then dropWorst items else items

/-- The heap after one more item; the worst one leaves if there are too many. -/
def push (h : Heap α σ) (item : α) (score : σ) : Heap α σ :=
  if h.limit = 0 then h
  else { h with count := h.count + 1, items := trim h.limit (((item, score), h.count) :: h.items) }

/-- The heap of a stream of items. -/
def ofList (limit : Nat) (items : List (α × σ)) : Heap α σ :=
  items.foldl (fun h item => h.push item.1 item.2) ⟨limit, 0, []⟩

/-- Whether an item comes before another one in the end. -/
def before (a b : Stamped α σ) : Bool := (rankOrder b a).isLE

/-- The items of the heap, best first, without their stamps. -/
def drain (h : Heap α σ) : List (α × σ) := (h.items.mergeSort before).map Prod.fst

theorem limit_push (h : Heap α σ) (item : α) (score : σ) : (h.push item score).limit = h.limit := by
  rw [push]
  split <;> rfl

theorem before_of_isLT {a b : Stamped α σ} (h : (rankOrder a b).isLT = true) :
    before b a = true := by
  rw [before, Ordering.isLT_iff_eq_lt.mp h]
  rfl

/-! ### What a heap holds -/

/-- **The best of a stream.**  What is lost is no better than what is kept, and nothing is lost that
there is room for. -/
structure Best (limit : Nat) (stream kept : List (Stamped α σ)) : Prop where
  length : kept.length = min limit stream.length
  split : ∃ lost, (kept ++ lost).Perm stream ∧ ∀ a ∈ kept, ∀ b ∈ lost, before a b = true

theorem Best.perm {limit : Nat} {stream stream' kept : List (Stamped α σ)}
    (h : Best limit stream kept) (hp : stream.Perm stream') : Best limit stream' kept := by
  obtain ⟨lost, hs, hl⟩ := h.split
  exact ⟨hp.length_eq ▸ h.length, lost, hs.trans hp, hl⟩

theorem best_zero (stream : List (Stamped α σ)) : Best 0 stream [] :=
  ⟨by simp, stream, .refl _, by simp⟩

/-- If there is room for one more item, none is lost. -/
theorem Best.cons {limit : Nat} {stream kept : List (Stamped α σ)} (h : Best limit stream kept)
    (hroom : kept.length < limit) (x : Stamped α σ) : Best limit (x :: stream) (x :: kept) := by
  obtain ⟨lost, hp, -⟩ := h.split
  have hlen := h.length
  have hplen := hp.length_eq
  rw [List.length_append] at hplen
  obtain rfl : lost = [] := List.eq_nil_of_length_eq_zero (by omega)
  refine ⟨?_, [], hp.cons x, by simp⟩
  rw [List.length_cons, List.length_cons]
  omega

variable [Std.TransOrd σ]

instance : Std.TransCmp (rankOrder : Stamped α σ → Stamped α σ → Ordering) :=
  haveI : Std.TransCmp fun a b : Stamped α σ => compare b.2 a.2 :=
    @Std.TransCmp.opposite _ (compareOn Prod.snd) _
  inferInstanceAs (Std.TransCmp (compareLex (compareOn fun a : Stamped α σ => a.1.2)
    fun a b : Stamped α σ => compare b.2 a.2))

theorem before_trans (a b c : Stamped α σ) (hab : before a b = true) (hbc : before b c = true) :
    before a c = true :=
  @Std.TransCmp.isLE_trans _ rankOrder _ _ _ _ hbc hab

theorem before_of_not_isLT {a b : Stamped α σ} (h : ¬(rankOrder a b).isLT = true) :
    before a b = true := by
  have hswap : rankOrder b a = (rankOrder a b).swap := Std.OrientedCmp.eq_swap
  rw [before, hswap, Ordering.isLE_swap]
  exact Ordering.isGE_iff_ne_lt.mpr (by simpa using h)

theorem before_refl (a : Stamped α σ) : before a a = true :=
  @Std.ReflCmp.isLE_rfl _ rankOrder _ a

theorem before_total (a b : Stamped α σ) : (before a b || before b a) = true := by
  by_cases h : (rankOrder a b).isLT = true
  · rw [before_of_isLT h, Bool.or_true]
  · rw [before_of_not_isLT h, Bool.true_or]

/-- One item leaves, and it is no better than any other. -/
theorem exists_worst (worst : Stamped α σ) (l : List (Stamped α σ)) :
    ∃ w, (w :: carry worst l).Perm (worst :: l) ∧ ∀ x ∈ worst :: l, before x w = true := by
  induction l generalizing worst with
  | nil => exact ⟨worst, .refl _, by simp [before_refl]⟩
  | cons x rest ih =>
      rw [carry]
      split
      · next hlt =>
        obtain ⟨w, hp, hw⟩ := ih x
        refine ⟨w, (List.Perm.swap ..).trans (hp.cons worst), fun y hy => ?_⟩
        rcases List.mem_cons.mp hy with rfl | hy
        · exact before_trans _ x w (before_of_isLT hlt) (hw x List.mem_cons_self)
        · exact hw y hy
      · next hge =>
        obtain ⟨w, hp, hw⟩ := ih worst
        have hworst := hw worst List.mem_cons_self
        refine ⟨w, ((List.Perm.swap ..).trans (hp.cons x)).trans (List.Perm.swap ..),
          fun y hy => ?_⟩
        rcases List.mem_cons.mp hy with rfl | hy
        · exact hworst
        · rcases List.mem_cons.mp hy with rfl | hy
          · exact before_trans _ worst w (before_of_not_isLT hge) hworst
          · exact hw y (List.mem_cons_of_mem _ hy)

/-- If there is none, the worst item is lost, and it is no worse than those lost before. -/
theorem Best.carry {limit : Nat} {stream kept : List (Stamped α σ)} (h : Best limit stream kept)
    (hfull : limit ≤ kept.length) (x : Stamped α σ) : Best limit (x :: stream) (carry x kept) := by
  obtain ⟨lost, hp, hlost⟩ := h.split
  obtain ⟨w, hw, hworst⟩ := exists_worst x kept
  have hlen := h.length
  have hwlen := hw.length_eq
  rw [List.length_cons, List.length_cons] at hwlen
  refine ⟨?_, w :: lost, (List.perm_middle.trans (hw.append_right lost)).trans (hp.cons x),
    fun a ha b hb => ?_⟩
  · rw [List.length_cons]
    omega
  · have haw := hworst a (hw.mem_iff.mp (List.mem_cons_of_mem w ha))
    rcases List.mem_cons.mp hb with rfl | hb
    · exact haw
    · rcases List.mem_cons.mp (hw.mem_iff.mp List.mem_cons_self) with rfl | hin
      · -- the new item leaves at once
        exact hlost a (hw.cons_inv.mem_iff.mp ha) b hb
      · exact before_trans a w b haw (hlost w hin b hb)

theorem Best.trim {limit : Nat} {stream kept : List (Stamped α σ)} (h : Best limit stream kept)
    (x : Stamped α σ) : Best limit (x :: stream) (trim limit (x :: kept)) := by
  rw [Heap.trim]
  split
  · next hfull => exact h.carry (Nat.lt_succ_iff.mp hfull) x
  · next hroom => exact h.cons (Nat.lt_of_succ_le (Nat.not_lt.mp hroom)) x

/-- The heap has the best of the stream, and counts it. -/
structure Holds (h : Heap α σ) (stream : List (α × σ)) : Prop where
  count : h.limit ≠ 0 → h.count = stream.length
  best : Best h.limit stream.zipIdx h.items

/-- **One more item** keeps a heap in line with the stream. -/
theorem Holds.push {h : Heap α σ} {stream : List (α × σ)} (hh : h.Holds stream) (x : α × σ) :
    (h.push x.1 x.2).Holds (stream ++ [x]) := by
  rw [Heap.push]
  split
  · next h0 =>
    have hnil : h.items = [] :=
      List.eq_nil_of_length_eq_zero (by rw [hh.best.length, h0, Nat.zero_min])
    exact ⟨fun hn => absurd h0 hn, by rw [hnil, h0]; exact best_zero _⟩
  · next h0 =>
    refine ⟨fun _ => by rw [List.length_append, hh.count h0, List.length_singleton],
      (hh.best.trim ((x.1, x.2), h.count)).perm ?_⟩
    rw [List.zipIdx_append, hh.count h0, Nat.zero_add]
    exact (List.perm_append_singleton _ _).symm

theorem holds_ofList (limit : Nat) (items : List (α × σ)) :
    (ofList limit items).limit = limit ∧ (ofList limit items).Holds items := by
  have h : ∀ (h : Heap α σ) (stream : List (α × σ)), h.limit = limit → h.Holds stream →
      (items.foldl (fun h item => h.push item.1 item.2) h).limit = limit ∧
        (items.foldl (fun h item => h.push item.1 item.2) h).Holds (stream ++ items) := by
    induction items with
    | nil => exact fun h stream hl hh => ⟨hl, by rwa [List.append_nil]⟩
    | cons x items ih =>
        intro h stream hl hh
        have hrest := ih (h.push x.1 x.2) (stream ++ [x]) ((limit_push h _ _).trans hl) (hh.push x)
        rwa [List.append_assoc] at hrest
  exact h ⟨limit, 0, []⟩ [] rfl ⟨fun _ => rfl, by simp, [], .refl _, by simp⟩

/-! ### What comes out of a heap -/

/-- The order of a heap is that of a stable sort by decreasing score. -/
theorem before_eq (a b : Stamped α σ) : before a b = List.zipIdxLE noWorse a b := by
  rw [before, rankOrder, List.zipIdxLE, noWorse, noWorse, Std.OrientedOrd.eq_swap (a := a.1.2)]
  cases compare b.1.2 a.1.2 with
  | lt => rfl
  | gt => rfl
  | eq =>
      rw [Bool.eq_iff_iff]
      simp [Nat.isLE_compare]

/-- Two items of one stream that come before each other are one. -/
theorem before_antisymm (stream : List (α × σ)) {a b : Stamped α σ} (ha : a ∈ stream.zipIdx)
    (hb : b ∈ stream.zipIdx) (hab : before a b = true) (hba : before b a = true) : a = b := by
  have heq : rankOrder a b = .eq := @Std.OrientedCmp.isLE_antisymm _ rankOrder _ _ _ hba hab
  have hstamp : a.2 = b.2 := by
    rw [rankOrder, Ordering.then_eq_eq] at heq
    exact (Nat.compare_eq_eq.mp heq.2).symm
  rw [List.mem_zipIdx_iff_getElem?] at ha hb
  rw [hstamp] at ha
  exact Prod.ext (Option.some.inj (ha.symm.trans hb)) hstamp

/-- The best of a stream, in order, are the front of the stream in order. -/
theorem Best.mergeSort_eq {limit : Nat} {stream : List (α × σ)} {kept : List (Stamped α σ)}
    (h : Best limit stream.zipIdx kept) :
    kept.mergeSort before = (stream.zipIdx.mergeSort before).take limit := by
  obtain ⟨lost, hp, hlost⟩ := h.split
  have hperm := (((List.mergeSort_perm kept before).append
    (List.mergeSort_perm lost before)).trans hp).trans (List.mergeSort_perm _ before).symm
  have hsorted : kept.mergeSort before ++ lost.mergeSort before =
      stream.zipIdx.mergeSort before := by
    refine List.Perm.eq_of_pairwise (fun a b ha hb => before_antisymm stream ?_ ?_) ?_
      (List.pairwise_mergeSort before_trans before_total _) hperm
    · exact List.mem_mergeSort.mp (hperm.mem_iff.mp ha)
    · exact List.mem_mergeSort.mp hb
    · refine List.pairwise_append.mpr ⟨List.pairwise_mergeSort before_trans before_total _,
        List.pairwise_mergeSort before_trans before_total _, fun a ha b hb => ?_⟩
      exact hlost a (List.mem_mergeSort.mp ha) b (List.mem_mergeSort.mp hb)
  have hlen := h.length
  have hplen := hp.length_eq
  rw [List.length_append] at hplen
  rw [← hsorted, List.take_append, List.length_mergeSort]
  rcases Nat.le_total limit stream.zipIdx.length with hl | hl
  · rw [List.take_of_length_le (by rw [List.length_mergeSort]; omega),
      show limit - kept.length = 0 by omega, List.take_zero, List.append_nil]
  · obtain rfl : lost = [] := List.eq_nil_of_length_eq_zero (by omega)
    rw [List.take_of_length_le (by rw [List.length_mergeSort]; omega)]
    simp

/-- **A heap gives the front of the stable order.** -/
theorem drain_ofList (limit : Nat) (items : List (α × σ)) :
    (ofList limit items).drain = (sorted items).take limit := by
  obtain ⟨hlimit, hh⟩ := holds_ofList limit items
  have hbest := hh.best
  rw [hlimit] at hbest
  have hbefore : (before : Stamped α σ → Stamped α σ → Bool) = List.zipIdxLE noWorse :=
    funext fun a => funext fun b => before_eq a b
  rw [drain, hbest.mergeSort_eq, List.map_take, hbefore]
  exact congrArg (List.take limit) List.mergeSort_zipIdx

end Heap

/-! ### Scores of any kind -/

theorem tied_eq_filter (s : Score) {α : Type} (items : List (α × Score)) :
    tied s items = items.filter fun x => x.2 = s :=
  List.filter_congr fun _ _ => decide_eq_decide.mpr Std.LawfulEqOrd.compare_eq_iff_eq

/-- **The shortlist of a stream of doubles** is the front of the stream in stable order, and so is
what a heap makes of it.  Of the items of one score, the shortlist has those that came first, in the
order in which they came. -/
theorem keeps_stable_front {α : Type} (limit : Nat) (items : List (α × Score)) :
    (ofList limit items).ranked = (sorted items).take limit ∧
      (Heap.ofList limit items).drain = (sorted items).take limit ∧
      StablySorted items (sorted items) ∧
      ∀ s, (ofList limit items).ranked.filter (·.2 = s) <+: items.filter (·.2 = s) := by
  have hstable := stablySorted_sorted items
  refine ⟨ranked_eq_take_sorted limit items, Heap.drain_ofList limit items, hstable, fun s => ?_⟩
  rw [ranked_eq_take_sorted, ← tied_eq_filter, ← tied_eq_filter, ← hstable.tied_eq]
  exact (List.take_prefix limit _).filter _

end Shortlist

end EntityResolution
