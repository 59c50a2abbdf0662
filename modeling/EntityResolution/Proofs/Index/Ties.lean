import EntityResolution.Proofs.Index.Scan

/-!
# Ties among best answers

An index may have several best answers to a question, since the limit may cut through a group of
keys that share equally many identifiers.  Apart from that they are one and the same.

* `IsBest.counts_eq`: the counts of a best answer are the front of the sorted counts of the
  matching keys.  So any two best answers have the same relevances (`IsBest.relevances_eq`).
* `IsBest.mem_of_mem`: they name the same keys but for those of the least relevance.
* `IsBest.perm_of_uncut`: they name the same keys altogether if the limit cuts through no tie, as it
  never does if it leaves room for all matching keys (`IsBest.named_of_card_le`).
* `IsBest.alikeUpToTies` puts this together, and `rank_alike` says it of the rankings of two indexes
  that hold the same identifiers.
-/

namespace EntityResolution.Index

variable {i : Index} {limit : Nat} {Q : Finset Identifier} {answer other : List (Key × Relevance)}

/-! ### The counts -/

/-- What the matching keys share, the most first. -/
def counts (i : Index) (Q : Finset Identifier) : List Nat :=
  ((i.matching Q).val.map (i.shared Q)).sort (· ≥ ·)

theorem IsBest.mem_matching (h : i.IsBest limit Q answer) {x : Key × Relevance}
    (hx : x ∈ answer) : x.1 ∈ i.matching Q :=
  Index.mem_matching.mpr (h.scored x hx).2.2.1

/-- A key that shares more than a named key is named. -/
theorem IsBest.mem_of_lt (h : i.IsBest limit Q answer) {key : Key} {x : Key × Relevance}
    (hx : x ∈ answer) (hlt : i.shared Q x.1 < i.shared Q key) : key ∈ answer.map Prod.fst := by
  by_contra hn
  exact absurd (h.best key (Index.mem_matching.mpr (Nat.one_le_of_lt hlt)) hn x hx)
    (Nat.not_le_of_lt hlt)

theorem IsBest.shared_pairwise (h : i.IsBest limit Q answer) :
    (answer.map fun x => i.shared Q x.1).Pairwise (· ≥ ·) := by
  rw [List.pairwise_map]
  refine h.descending.imp_of_mem fun {a b} ha hb hab => ?_
  obtain ⟨-, ha', hpos, hle⟩ := h.scored a ha
  obtain ⟨-, hb', -, -⟩ := h.scored b hb
  rw [ha', hb', Relevance.fraction, Relevance.fraction,
    div_le_div_iff_of_pos_right (Nat.cast_pos.mpr (hpos.trans hle)), Nat.cast_le] at hab
  exact hab

/-- The matching keys are those named and others, none of which shares more than a named one. -/
theorem IsBest.exists_others (h : i.IsBest limit Q answer) :
    ∃ others : Multiset Key, (i.matching Q).val = ↑(answer.map Prod.fst) + others ∧
      (i.matching Q).card = answer.length + others.card ∧
      ∀ key ∈ others, ∀ x ∈ answer, i.shared Q key ≤ i.shared Q x.1 := by
  have hle : (answer.map Prod.fst : Multiset Key) ≤ (i.matching Q).val := by
    refine (Multiset.le_iff_subset (Multiset.coe_nodup.mpr h.nodup)).mpr fun key hk => ?_
    obtain ⟨x, hx, rfl⟩ := List.mem_map.mp (Multiset.mem_coe.mp hk)
    exact h.mem_matching hx
  obtain ⟨others, ho⟩ := Multiset.le_iff_exists_add.mp hle
  refine ⟨others, ho, ?_, fun key hk => ?_⟩
  · rw [Finset.card_def, ho, Multiset.card_add, Multiset.coe_card, List.length_map]
  · have hd := (Multiset.nodup_add.mp (ho ▸ (i.matching Q).nodup)).2.2
    refine h.best key ?_ fun hn => Multiset.disjoint_left.mp hd (Multiset.mem_coe.mpr hn) hk
    rw [← Finset.mem_val, ho]
    exact Multiset.mem_add.mpr (.inr hk)

/-- **The counts of a best answer** are the front of the sorted counts of the matching keys. -/
theorem IsBest.counts_eq (h : i.IsBest limit Q answer) :
    (answer.map fun x => i.shared Q x.1) = (i.counts Q).take limit := by
  obtain ⟨others, ho, hcard, hothers⟩ := h.exists_others
  -- sorted, the keys that are not named stand behind those that are
  have hsorted : i.counts Q =
      (answer.map fun x => i.shared Q x.1) ++ (others.map (i.shared Q)).sort (· ≥ ·) := by
    refine List.Perm.eq_of_pairwise' (r := (· ≥ ·)) (Multiset.pairwise_sort _ _) ?_ ?_
    · refine List.pairwise_append.mpr ⟨h.shared_pairwise, Multiset.pairwise_sort _ _, ?_⟩
      intro a ha b hb
      obtain ⟨x, hx, rfl⟩ := List.mem_map.mp ha
      obtain ⟨key, hk, rfl⟩ := Multiset.mem_map.mp ((Multiset.mem_sort _).mp hb)
      exact hothers key hk x hx
    · rw [← Multiset.coe_eq_coe, counts, Multiset.sort_eq, ← Multiset.coe_add, Multiset.sort_eq,
        ho, Multiset.map_add, Multiset.map_coe, List.map_map]
      rfl
  have hlen := h.length_eq
  rw [hsorted, List.take_append, List.length_map]
  rcases Nat.le_total limit (i.matching Q).card with hl | hl
  · rw [List.take_of_length_le (by rw [List.length_map]; omega),
      show limit - answer.length = 0 by omega, List.take_zero, List.append_nil]
  · -- all matching keys are named
    have h0 : others = 0 := Multiset.card_eq_zero.mp (by omega)
    rw [List.take_of_length_le (by rw [List.length_map]; omega), h0]
    simp

/-- **Best answers agree on the relevances**, one by one. -/
theorem IsBest.relevances_eq (h : i.IsBest limit Q answer) (h' : i.IsBest limit Q other) :
    answer.map Prod.snd = other.map Prod.snd := by
  have hrel : ∀ {a}, i.IsBest limit Q a →
      a.map Prod.snd = ((i.counts Q).take limit).map fun n => ⟨n, Q.card⟩ := by
    intro a ha
    rw [← ha.counts_eq, List.map_map]
    exact List.map_congr_left fun x hx => (ha.scored x hx).2.1
  rw [hrel h, hrel h']

/-! ### The keys -/

/-- A key that two best answers name has the same relevance in both. -/
theorem IsBest.mem_of_named (h : i.IsBest limit Q answer) (h' : i.IsBest limit Q other)
    {x : Key × Relevance} (hx : x ∈ answer) (hn : x.1 ∈ other.map Prod.fst) : x ∈ other := by
  obtain ⟨z, hz, hkey⟩ := List.mem_map.mp hn
  obtain ⟨-, hx', -, -⟩ := h.scored x hx
  obtain ⟨-, hz', -, -⟩ := h'.scored z hz
  rwa [show x = z from Prod.ext hkey.symm (by rw [hx', hz', hkey])]

/-- What is named in one best answer, and not with the least relevance, is named in any other. -/
theorem IsBest.mem_of_mem (h : i.IsBest limit Q answer) (h' : i.IsBest limit Q other)
    {x y : Key × Relevance} (hx : x ∈ answer) (hy : y ∈ other)
    (hlt : y.2.shared < x.2.shared) : x ∈ other := by
  obtain ⟨-, hx', -, -⟩ := h.scored x hx
  obtain ⟨-, hy', -, -⟩ := h'.scored y hy
  rw [hx', hy'] at hlt
  exact h.mem_of_named h' hx (h'.mem_of_lt hy hlt)

/-- Best answers are equally long, so they are the same as soon as one names what the other does. -/
theorem IsBest.perm_of_named (h : i.IsBest limit Q answer) (h' : i.IsBest limit Q other)
    (hn : ∀ x ∈ answer, x.1 ∈ other.map Prod.fst) : answer.Perm other := by
  have hsub : answer ⊆ other := fun x hx => h.mem_of_named h' hx (hn x hx)
  refine (List.subperm_of_subset h.nodup.of_map hsub).perm_of_length_le ?_
  rw [h.length_eq, h'.length_eq]

/-- Where the limit cuts through no tie, only one set of keys is best. -/
theorem IsBest.perm_of_uncut (h : i.IsBest limit Q answer) (h' : i.IsBest limit Q other)
    (hcut : ∀ key ∈ i.matching Q, key ∉ answer.map Prod.fst →
      ∀ x ∈ answer, i.shared Q key < i.shared Q x.1) : answer.Perm other := by
  by_cases hn : ∀ y ∈ other, y.1 ∈ answer.map Prod.fst
  · exact (h'.perm_of_named h hn).symm
  · -- what only the other answer names shares less than all that the one names
    push Not at hn
    obtain ⟨y, hy, hn⟩ := hn
    exact h.perm_of_named h' fun x hx => h'.mem_of_lt hy (hcut y.1 (h'.mem_matching hy) hn x hx)

/-- If the limit leaves room for all matching keys, all are named. -/
theorem IsBest.named_of_card_le (h : i.IsBest limit Q answer)
    (hc : (i.matching Q).card ≤ limit) {key : Key} (hk : key ∈ i.matching Q) :
    key ∈ answer.map Prod.fst := by
  obtain ⟨others, ho, hcard, -⟩ := h.exists_others
  have hlen := h.length_eq
  have h0 : others = 0 := Multiset.card_eq_zero.mp (by omega)
  rw [← Finset.mem_val, ho, h0, add_zero] at hk
  exact Multiset.mem_coe.mp hk

/-- Two best answers of an index, to one question.  They have the same relevances one by one, and
name the same keys but for those of the least relevance.  These differ only where the limit cuts
through a tie: if each matching key that is not named shares less than every named one, and so also
if the limit leaves room for all matching keys, the answers are the same up to the order. -/
structure AlikeUpToTies (i : Index) (limit : Nat) (Q : Finset Identifier)
    (answer other : List (Key × Relevance)) : Prop where
  best : i.IsBest limit Q answer
  best_other : i.IsBest limit Q other
  relevances : answer.map Prod.snd = other.map Prod.snd
  above : ∀ x, (∃ y ∈ answer, y.2.shared < x.2.shared) → (x ∈ answer ↔ x ∈ other)
  uncut : (∀ key ∈ i.matching Q, key ∉ answer.map Prod.fst →
    ∀ x ∈ answer, i.shared Q key < i.shared Q x.1) → answer.Perm other
  whole : (i.matching Q).card ≤ limit → answer.Perm other

/-- **Best answers are alike up to ties.** -/
theorem IsBest.alikeUpToTies (h : i.IsBest limit Q answer) (h' : i.IsBest limit Q other) :
    i.AlikeUpToTies limit Q answer other := by
  have hrel := h.relevances_eq h'
  refine ⟨h, h', hrel, fun x ⟨y, hy, hlt⟩ => ⟨fun hx => ?_, fun hx => ?_⟩, h.perm_of_uncut h',
    fun hc => h.perm_of_uncut h' fun key hk hn => absurd (h.named_of_card_le hc hk) hn⟩
  · -- the other answer has the relevance of `y` too
    obtain ⟨y', hy', hsnd⟩ := List.mem_map.mp (hrel ▸ List.mem_map_of_mem (f := Prod.snd) hy)
    exact h.mem_of_mem h' hx hy' (by rw [hsnd]; exact hlt)
  · exact h'.mem_of_mem h hx hy hlt

/-! ### Two indexes -/

/-- Whether an answer is best hangs on the identifiers of the entries only. -/
theorem IsBest.congr {j : Index} (h : ∀ key, j.idsOf key = i.idsOf key)
    (hb : i.IsBest limit Q answer) : j.IsBest limit Q answer := by
  have hs : ∀ key, j.shared Q key = i.shared Q key := by
    intro key
    rw [shared, shared, h]
  have hm : j.matching Q = i.matching Q := by
    ext key
    rw [Index.mem_matching, Index.mem_matching, hs]
  refine ⟨hb.nodup, fun x hx => ?_, hb.descending, by rw [hm, hb.length_eq],
    fun key hk hn x hx => ?_⟩
  · obtain ⟨-, hrel, hpos, hle⟩ := hb.scored x hx
    rw [hs]
    obtain ⟨id, -, hc⟩ := one_le_shared_iff.mp (hs x.1 ▸ hpos)
    exact ⟨contains_of_carries hc, hrel, hpos, hle⟩
  · rw [hs, hs]
    exact hb.best key (hm ▸ hk) hn x hx

/-- **Indexes that hold the same identifiers rank alike**: what the one answers and what the other
answers are best answers of the first. -/
theorem rank_alike {j : Index} (hi : i.Sound) (hj : j.Sound)
    (h : ∀ key, j.idsOf key = i.idsOf key) (limit : Nat) (ids : List Identifier) :
    ∃ answer other, i.rank limit (.ofList ids) = .ok answer ∧
      j.rank limit (.ofList ids) = .ok other ∧
      i.AlikeUpToTies limit ids.toFinset answer other := by
  obtain ⟨answer, ha, hb⟩ := rank_ofList_isBest hi limit ids
  obtain ⟨other, ho, hb'⟩ := rank_ofList_isBest hj limit ids
  exact ⟨answer, other, ha, ho, hb.alikeUpToTies (hb'.congr fun key => (h key).symm)⟩

end EntityResolution.Index
