import EntityResolution.Index.Basic
import EntityResolution.Proofs.Index.Lockstep
import EntityResolution.Proofs.Ranking.Shortlist
import Mathlib

/-!
# Ranking as a scan of all entries

`Index.rank` follows the buckets of the identifiers asked for.  What it has to find is said
without buckets: `i.shared Q key` counts the identifiers of `Q` that the entry of `key` holds, and
`i.matching Q` are the keys for which that count is not zero.  `i.IsBest limit Q answer` says that
`answer` is what a scan of all entries would pick: the `limit` best of the matching keys.

* `visited_iff`: the keys met in the buckets are the matching ones.
* `rankVisits_isBest`: ranking yields a best answer, in whatever order the keys are met and
  however often.
-/

namespace EntityResolution

/-- The relevance as a fraction. -/
def Relevance.fraction (r : Relevance) : ℚ := r.shared / r.asked

theorem Relevance.compare_ne_lt_iff (a b : Relevance) :
    compare a b ≠ .lt ↔ b.shared ≤ a.shared := by
  rw [show compare a b = compare a.shared b.shared from rfl, ne_eq, Nat.compare_eq_lt]
  exact Nat.not_lt

namespace Index

/-- The identifiers that the entry of a key holds; none if the key is not indexed. -/
def idsOf (i : Index) (key : Key) : Finset Identifier :=
  ((i.get? key).map fun e => e.identifiers.toList.toFinset).getD ∅

/-- How many of the identifiers asked for the entry of a key holds. -/
def shared (i : Index) (Q : Finset Identifier) (key : Key) : Nat := (i.idsOf key ∩ Q).card

/-- The indexed keys that share an identifier with those asked for. -/
def matching (i : Index) (Q : Finset Identifier) : Finset Key :=
  i.entries.keys.toFinset.filter fun key => 1 ≤ i.shared Q key

/-- **A best answer.**  No key comes twice; each is indexed and has the relevance that the scan
finds, which is not zero and at most one; the relevances never increase; and as many of the
matching keys as the limit allows are named, none of which shares less than a matching key that is
not named. -/
structure IsBest (i : Index) (limit : Nat) (Q : Finset Identifier)
    (answer : List (Key × Relevance)) : Prop where
  nodup : (answer.map Prod.fst).Nodup
  scored : ∀ x ∈ answer, i.contains x.1 = true ∧ x.2 = ⟨i.shared Q x.1, Q.card⟩ ∧
    1 ≤ i.shared Q x.1 ∧ i.shared Q x.1 ≤ Q.card
  descending : answer.Pairwise fun a b => b.2.fraction ≤ a.2.fraction
  length_eq : answer.length = min limit (i.matching Q).card
  best : ∀ key ∈ i.matching Q, key ∉ answer.map Prod.fst →
    ∀ x ∈ answer, i.shared Q key ≤ i.shared Q x.1

/-! ### What the scan sees -/

theorem mem_idsOf {i : Index} {key : Key} {id : Identifier} :
    id ∈ i.idsOf key ↔ i.Carries key id := by
  rw [idsOf, Carries]
  cases i.get? key with
  | none => simp
  | some e => simp [SmallSet.mem_toList]

theorem contains_of_carries {i : Index} {key : Key} {id : Identifier} (h : i.Carries key id) :
    i.contains key = true := by
  obtain ⟨e, he, -⟩ := h
  rw [contains_eq_isSome, he]
  rfl

theorem one_le_shared_iff {i : Index} {Q : Finset Identifier} {key : Key} :
    1 ≤ i.shared Q key ↔ ∃ id ∈ Q, i.Carries key id := by
  rw [shared, Nat.one_le_iff_ne_zero, Finset.card_ne_zero]
  constructor
  · rintro ⟨id, hid⟩
    obtain ⟨h, hQ⟩ := Finset.mem_inter.mp hid
    exact ⟨id, hQ, mem_idsOf.mp h⟩
  · rintro ⟨id, hQ, h⟩
    exact ⟨id, Finset.mem_inter.mpr ⟨mem_idsOf.mpr h, hQ⟩⟩

theorem shared_le (i : Index) (Q : Finset Identifier) (key : Key) : i.shared Q key ≤ Q.card :=
  Finset.card_le_card Finset.inter_subset_right

theorem mem_matching {i : Index} {Q : Finset Identifier} {key : Key} :
    key ∈ i.matching Q ↔ 1 ≤ i.shared Q key := by
  rw [matching, Finset.mem_filter, List.mem_toFinset, Std.TreeMap.mem_keys]
  refine ⟨And.right, fun h => ⟨?_, h⟩⟩
  obtain ⟨id, -, hc⟩ := one_le_shared_iff.mp h
  exact Std.TreeMap.contains_iff_mem.mp (contains_of_carries hc)

/-- The overlap that ranking computes is the count of the scan. -/
theorem overlap_eq_shared {i : Index} (h : i.Sound) {key : Key} {e : Entry}
    (he : i.get? key = some e) (query : SmallSet Identifier) :
    e.overlap query = i.shared query.toList.toFinset key := by
  have hd := SmallSet.nodup_toList (h.entry_wellFormed key e he)
  have hset : i.idsOf key ∩ query.toList.toFinset =
      (e.identifiers.toList.filter query.contains).toFinset := by
    ext id
    simp [idsOf, he, SmallSet.contains_eq_decide]
  rw [shared, hset, List.toFinset_card_of_nodup (hd.filter _), Entry.overlap,
    List.countP_eq_length_filter]

/-- **The keys met in the buckets are the matching ones.** -/
theorem visited_iff {i : Index} (h : i.Sound) (query : SmallSet Identifier) (key : Key) :
    key ∈ i.visited query ↔ key ∈ i.matching query.toList.toFinset := by
  rw [mem_matching, one_le_shared_iff, visited, List.mem_flatMap]
  simp only [List.mem_toFinset, ← h.lists_iff_carries, Lists]
  refine exists_congr fun id => and_congr_right fun _ => ?_
  cases i.candidates? id with
  | none => simp
  | some b => simp [SmallSet.mem_toList]

/-! ### Ranking -/

/-- What ranking pushes for a key. -/
def scoredKey (i : Index) (Q : Finset Identifier) (key : Key) : Key × Relevance :=
  (key, ⟨i.shared Q key, Q.card⟩)

/-- A key that is scored already is passed over. -/
theorem rankStep_of_mem {i : Index} {query : SmallSet Identifier} {r : Ranking}
    (hr : r.scored.WellFormed) {key : Key} (hk : key ∈ r.scored) :
    i.rankStep query r key = .ok r := by
  have hfst := SmallSet.insert_fst hr key
  rw [SmallSet.contains_eq_true_iff.mpr hk] at hfst
  rw [rankStep, show r.scored.insert key = (false, _) from Prod.ext hfst rfl]

/-- Any other indexed key is pushed with its relevance. -/
theorem rankStep_of_not_mem {i : Index} (h : i.Sound) {query : SmallSet Identifier}
    (hq : query.WellFormed) {r : Ranking} (hr : r.scored.WellFormed) {key : Key}
    (hi : (i.get? key).isSome = true) (hk : key ∉ r.scored) :
    i.rankStep query r key = .ok ⟨(r.scored.insert key).2,
      r.best.push key (i.scoredKey query.toList.toFinset key).2⟩ := by
  obtain ⟨e, he⟩ := Option.isSome_iff_exists.mp hi
  have hsize : query.size = query.toList.toFinset.card := by
    rw [List.toFinset_card_of_nodup (SmallSet.nodup_toList hq), SmallSet.size_eq_length]
  have hfst := SmallSet.insert_fst hr key
  rw [Bool.eq_false_iff.mpr fun hc => hk (SmallSet.contains_eq_true_iff.mp hc)] at hfst
  rw [rankStep, show r.scored.insert key = (true, (r.scored.insert key).2) from
    Prod.ext hfst rfl]
  simp only [he, overlap_eq_shared h he, hsize, scoredKey]

/-- A ranking in progress pushes each key at its first visit. -/
theorem foldlM_rankStep {i : Index} (h : i.Sound) {query : SmallSet Identifier}
    (hq : query.WellFormed) (visits : List Key)
    (hv : ∀ key ∈ visits, (i.get? key).isSome = true) (r : Ranking) (hr : r.scored.WellFormed) :
    ∃ (scored : SmallSet Key) (pushed : List Key), pushed.Nodup ∧
      (∀ key, key ∈ pushed ↔ key ∈ visits ∧ key ∉ r.scored) ∧
      visits.foldlM (i.rankStep query) r = .ok ⟨scored,
        (pushed.map (i.scoredKey query.toList.toFinset)).foldl (fun s x => s.push x.1 x.2)
          r.best⟩ := by
  induction visits generalizing r with
  | nil => exact ⟨r.scored, [], List.nodup_nil, by simp, rfl⟩
  | cons key visits ih =>
      have hv' := fun k hk => hv k (List.mem_cons_of_mem key hk)
      by_cases hk : key ∈ r.scored
      · obtain ⟨scored, pushed, hd, hm, hrun⟩ := ih hv' r hr
        refine ⟨scored, pushed, hd, fun k => ?_, ?_⟩
        · rw [hm, List.mem_cons]
          exact ⟨fun ⟨hk', hn⟩ => ⟨.inr hk', hn⟩, fun ⟨ho, hn⟩ =>
            ⟨ho.resolve_left fun e => hn (e ▸ hk), hn⟩⟩
        · rw [List.foldlM_cons, rankStep_of_mem hr hk]
          exact hrun
      · obtain ⟨scored, pushed, hd, hm, hrun⟩ := ih hv' ⟨(r.scored.insert key).2,
          r.best.push key (i.scoredKey query.toList.toFinset key).2⟩ (hr.insert key)
        -- the key counts as scored from now on, so it is not among those pushed later
        refine ⟨scored, key :: pushed, List.nodup_cons.mpr ⟨fun hp => ?_, hd⟩, fun k => ?_, ?_⟩
        · exact ((hm key).mp hp).2 ((SmallSet.mem_insert hr).mpr (.inl rfl))
        · rw [List.mem_cons, hm, List.mem_cons, SmallSet.mem_insert hr]
          by_cases e : k = key
          · simp [e, hk]
          · simp [e]
        · rw [List.foldlM_cons,
            rankStep_of_not_mem h hq hr (hv key List.mem_cons_self) hk]
          exact hrun

/-- Ranking takes the front of the matching keys, arranged by what they share. -/
theorem rankVisits_eq {i : Index} (h : i.Sound) {query : SmallSet Identifier}
    (hq : query.WellFormed) (limit : Nat) {visits : List Key}
    (hv : ∀ key, key ∈ visits ↔ key ∈ i.matching query.toList.toFinset) :
    ∃ pushed : List Key, pushed.Nodup ∧
      (∀ key, key ∈ pushed ↔ key ∈ i.matching query.toList.toFinset) ∧
      i.rankVisits limit query visits = .ok ((Shortlist.arrange
        (pushed.map (i.scoredKey query.toList.toFinset))).take limit) := by
  have hindexed : ∀ key ∈ visits, (i.get? key).isSome = true := by
    intro key hk
    obtain ⟨id, -, hc⟩ := one_le_shared_iff.mp (mem_matching.mp ((hv key).mp hk))
    rw [← contains_eq_isSome]
    exact contains_of_carries hc
  obtain ⟨scored, pushed, hd, hm, hrun⟩ :=
    foldlM_rankStep h hq visits hindexed { best := ⟨limit, []⟩ } SmallSet.wellFormed_empty
  refine ⟨pushed, hd, fun key => ?_, ?_⟩
  · rw [hm, hv]
    simp
  · rw [rankVisits, hrun, ← Shortlist.ranked_ofList]
    rfl

section Arranged

variable {i : Index} {Q : Finset Identifier} {pushed : List Key}

theorem mem_arranged (hm : ∀ key, key ∈ pushed ↔ key ∈ i.matching Q) (x : Key × Relevance) :
    x ∈ Shortlist.arrange (pushed.map (i.scoredKey Q)) ↔
      x.1 ∈ i.matching Q ∧ x = i.scoredKey Q x.1 := by
  rw [(Shortlist.arrange_perm _).mem_iff, List.mem_map]
  constructor
  · rintro ⟨key, hk, rfl⟩
    exact ⟨(hm key).mp hk, rfl⟩
  · rintro ⟨hk, hx⟩
    exact ⟨x.1, (hm x.1).mpr hk, hx.symm⟩

theorem nodup_arranged (hd : pushed.Nodup) :
    ((Shortlist.arrange (pushed.map (i.scoredKey Q))).map Prod.fst).Nodup := by
  refine ((Shortlist.arrange_perm _).map Prod.fst).nodup_iff.mpr ?_
  rw [List.map_map, show Prod.fst ∘ i.scoredKey Q = id from rfl, List.map_id]
  exact hd

theorem length_arranged (hd : pushed.Nodup) (hm : ∀ key, key ∈ pushed ↔ key ∈ i.matching Q) :
    (Shortlist.arrange (pushed.map (i.scoredKey Q))).length = (i.matching Q).card := by
  rw [(Shortlist.arrange_perm _).length_eq, List.length_map, ← List.toFinset_card_of_nodup hd]
  congr 1
  ext key
  rw [List.mem_toFinset, hm]

theorem arranged_pairwise (i : Index) (Q : Finset Identifier) (pushed : List Key) :
    (Shortlist.arrange (pushed.map (i.scoredKey Q))).Pairwise
      fun a b => b.2.shared ≤ a.2.shared :=
  (Shortlist.arrange_pairwise _).imp fun h => (Relevance.compare_ne_lt_iff _ _).mp h

/-- The front of the arranged matching keys is a best answer. -/
theorem isBest_take (limit : Nat) (hd : pushed.Nodup)
    (hm : ∀ key, key ∈ pushed ↔ key ∈ i.matching Q) :
    i.IsBest limit Q ((Shortlist.arrange (pushed.map (i.scoredKey Q))).take limit) := by
  have hmem := mem_arranged hm
  have hdesc := arranged_pairwise i Q pushed
  refine ⟨?_, fun x hx => ?_, ?_, ?_, fun key hk hn x hx => ?_⟩
  · exact (nodup_arranged hd).sublist ((List.take_sublist limit _).map Prod.fst)
  · obtain ⟨hk, hx'⟩ := (hmem x).mp (List.mem_of_mem_take hx)
    have h1 := mem_matching.mp hk
    obtain ⟨id, -, hc⟩ := one_le_shared_iff.mp h1
    exact ⟨contains_of_carries hc, congrArg Prod.snd hx', h1, shared_le i Q x.1⟩
  · refine (hdesc.sublist (List.take_sublist limit _)).imp_of_mem fun {a b} ha hb hab => ?_
    obtain ⟨-, ha'⟩ := (hmem a).mp (List.mem_of_mem_take ha)
    obtain ⟨-, hb'⟩ := (hmem b).mp (List.mem_of_mem_take hb)
    rw [ha', hb'] at hab ⊢
    exact div_le_div_of_nonneg_right (Nat.cast_le.mpr hab) (Nat.cast_nonneg _)
  · rw [List.length_take, length_arranged hd hm]
  · -- the key is in the arrangement, so behind the limit
    have hin : i.scoredKey Q key ∈ Shortlist.arrange (pushed.map (i.scoredKey Q)) :=
      (hmem _).mpr ⟨hk, rfl⟩
    rw [← List.take_append_drop limit (Shortlist.arrange _)] at hin hdesc
    have hdrop := (List.mem_append.mp hin).resolve_left fun ht =>
      hn (List.mem_map.mpr ⟨_, ht, rfl⟩)
    have hle := (List.pairwise_append.mp hdesc).2.2 x hx _ hdrop
    obtain ⟨-, hx'⟩ := (hmem x).mp (List.mem_of_mem_take hx)
    rw [hx'] at hle
    exact hle

end Arranged

/-- **Ranking is best in any order.**  It succeeds and yields a best answer, whatever the order in
which the matching keys are met and however often each is met. -/
theorem rankVisits_isBest {i : Index} (h : i.Sound) {query : SmallSet Identifier}
    (hq : query.WellFormed) (limit : Nat) {visits : List Key}
    (hv : ∀ key, key ∈ visits ↔ key ∈ i.visited query) :
    ∃ answer, i.rankVisits limit query visits = .ok answer ∧
      i.IsBest limit query.toList.toFinset answer := by
  obtain ⟨pushed, hd, hm, hrun⟩ := rankVisits_eq h hq limit fun key =>
    (hv key).trans (visited_iff h query key)
  exact ⟨_, hrun, isBest_take limit hd hm⟩

theorem rank_isBest {i : Index} (h : i.Sound) {query : SmallSet Identifier}
    (hq : query.WellFormed) (limit : Nat) :
    ∃ answer, i.rank limit query = .ok answer ∧ i.IsBest limit query.toList.toFinset answer :=
  rankVisits_isBest h hq limit fun _ => Iff.rfl

/-- The identifiers of a question are those listed, whatever the set of them looks like. -/
theorem toFinset_query {query : SmallSet Identifier} {ids : List Identifier}
    (h : ∀ id, id ∈ query ↔ id ∈ ids) : query.toList.toFinset = ids.toFinset := by
  ext id
  rw [List.mem_toFinset, List.mem_toFinset, SmallSet.mem_toList, h]

theorem rank_ofList_isBest {i : Index} (h : i.Sound) (limit : Nat) (ids : List Identifier) :
    ∃ answer, i.rank limit (.ofList ids) = .ok answer ∧ i.IsBest limit ids.toFinset answer := by
  rw [← toFinset_query fun id => SmallSet.mem_ofList]
  exact rank_isBest h (SmallSet.wellFormed_ofList ids) limit

end Index

end EntityResolution
