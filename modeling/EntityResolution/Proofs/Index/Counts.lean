import EntityResolution.Proofs.Index.Batch
import Mathlib.Data.Finset.Card

/-!
# What an index counts

`i.indexed` are the keys with an entry, and `i.tracked` the identifiers with a bucket.  The counts
that describe an index are the sizes of these sets and of parts of them (`stats_eq`).

A batch is counted object by object, but the number that comes out hangs on the index before and the
index after only: it is that of the keys that are indexed now and were not (`register_count`), or of
those that were indexed and are in the batch (`unregister_count`), however often a key is repeated.
-/

namespace EntityResolution.Index

/-- The keys with an entry. -/
def indexed (i : Index) : Finset Key := i.entries.keys.toFinset

/-- The identifiers with a bucket. -/
def tracked (i : Index) : Finset Identifier := i.buckets.keys.toFinset

theorem mem_indexed {i : Index} {key : Key} : key ∈ i.indexed ↔ i.contains key = true := by
  rw [indexed, List.mem_toFinset, Std.TreeMap.mem_keys, Std.TreeMap.mem_iff_contains, contains]

theorem mem_tracked {i : Index} {id : Identifier} :
    id ∈ i.tracked ↔ (i.candidates? id).isSome = true := by
  rw [tracked, List.mem_toFinset, Std.TreeMap.mem_keys, Std.TreeMap.mem_iff_contains,
    Std.TreeMap.contains_eq_isSome_getElem?, candidates?]

theorem mem_indexed_iff_ne_none {i : Index} {key : Key} : key ∈ i.indexed ↔ i.get? key ≠ none := by
  rw [mem_indexed, contains_eq_isSome, Option.isSome_iff_ne_none]

/-! ### The counts as sizes of sets -/

theorem card_indexed (i : Index) : i.indexed.card = i.size := by
  rw [indexed, List.toFinset_card_of_nodup Std.TreeMap.nodup_keys, Std.TreeMap.length_keys, size]

theorem card_tracked (i : Index) : i.tracked.card = i.buckets.size := by
  rw [tracked, List.toFinset_card_of_nodup Std.TreeMap.nodup_keys, Std.TreeMap.length_keys]

/-- What is counted among the keys of the entries is counted in a set. -/
theorem countP_keys (i : Index) (p : Key → Bool) :
    i.entries.keys.countP p = (i.indexed.filter fun key => p key = true).card := by
  rw [indexed, ← List.toFinset_filter,
    List.toFinset_card_of_nodup (Std.TreeMap.nodup_keys.filter _), List.countP_eq_length_filter]

/-- The object that an entry reports is the linked one, if someone holds it. -/
theorem bind_liveObject? (i : Index) (owners : Owners) (key : Key) :
    ((i.get? key).bind fun e => e.liveObject? owners) =
      (i.link? key).filter fun object => owners.isAlive object.handle := by
  rw [link?]
  cases i.get? key <;> rfl

theorem countP_values (i : Index) (owners : Owners) :
    (i.entries.values.countP fun e => e.isLive owners) =
      i.entries.keys.countP fun key =>
        ((i.link? key).filter fun object => owners.isAlive object.handle).isSome := by
  have hvalues : i.entries.values = i.entries.toList.map Prod.snd := by
    rw [show i.entries.values = i.entries.foldr (fun _ e l => e :: l) [] from rfl,
      Std.TreeMap.foldr_eq_foldr_toList, List.map_eq_foldr]
  rw [hvalues, ← Std.TreeMap.map_fst_toList_eq_keys, List.countP_map, List.countP_map]
  refine List.countP_congr fun x hx => ?_
  have he : i.get? x.1 = some x.2 := Std.TreeMap.mem_toList_iff_getElem?_eq_some.mp hx
  rw [Function.comp_apply, Function.comp_apply, ← bind_liveObject?, he]
  rfl

/-- **The counts of an index** are the numbers of its keys, of its keys of each kind, of the
identifiers with a bucket, and of the keys whose linked object someone holds. -/
theorem stats_eq (i : Index) (owners : Owners) :
    i.stats owners =
      { entities := i.indexed.card
        persons := (i.indexed.filter fun key => key.kind = .person).card
        resources := (i.indexed.filter fun key => key.kind = .resource).card
        tools := (i.indexed.filter fun key => key.kind = .tool).card
        identifiers := i.tracked.card
        live := (i.indexed.filter fun key =>
          ((i.link? key).filter fun object => owners.isAlive object.handle).isSome = true).card } := by
  simp only [stats, countKind, countP_keys, countP_values, card_indexed, card_tracked, beq_iff_eq]

/-! ### How many keys a batch adds -/

theorem Replaced.indexed_some {i j : Index} {key : Key} {e : Entry}
    (r : Replaced i key (some e) j) : j.indexed = insert key i.indexed := by
  ext k
  rw [mem_indexed_iff_ne_none, Finset.mem_insert, mem_indexed_iff_ne_none, r.get?_eq]
  by_cases hk : key = k
  · simp [hk]
  · simp [hk, Ne.symm hk]

theorem Replaced.indexed_none {i j : Index} {key : Key} (r : Replaced i key none j) :
    j.indexed = i.indexed.erase key := by
  ext k
  rw [mem_indexed_iff_ne_none, Finset.mem_erase, mem_indexed_iff_ne_none, r.get?_eq]
  by_cases hk : key = k
  · simp [hk]
  · simp [hk, Ne.symm hk]

theorem registerOne_size {i j : Index} (h : i.Sound) {object : Object} {new : Bool}
    (hr : i.registerOne object = .ok (new, j)) : j.size = i.size + new.toNat := by
  by_cases hv : object.entity.validIdentifiers = []
  · cases (registerOne_of_nil hv).symm.trans hr
    rfl
  · obtain ⟨l, e, hl, r, -⟩ := registerOne_replaced h hv
    cases hl.symm.trans hr
    rw [← card_indexed, r.indexed_some, Finset.card_insert_eq_ite, card_indexed]
    by_cases hc : i.contains object.key = true
    · rw [if_pos (mem_indexed.mpr hc), hc]
      rfl
    · rw [if_neg (mt mem_indexed.mp hc), Bool.eq_false_iff.mpr hc]
      rfl

theorem unregisterKey_size {i j : Index} (h : i.Sound) {key : Key} {known : Bool}
    (hr : i.unregisterKey key = .ok (known, j)) : j.size + known.toNat = i.size := by
  obtain ⟨l, hl, r⟩ := unregisterKey_replaced h key
  cases hl.symm.trans hr
  rw [← card_indexed, r.indexed_none, ← card_indexed i]
  by_cases hc : i.contains key = true
  · rw [hc]
    exact Finset.card_erase_add_one (mem_indexed.mpr hc)
  · rw [Bool.eq_false_iff.mpr hc, Finset.erase_eq_of_notMem (mt mem_indexed.mp hc)]
    rfl

/-- Registering counts what the index grows by. -/
theorem register_size {i : Index} (h : i.Sound) (batch : List Object) :
    ∃ p, i.register batch = .ok p ∧ p.2.Sound ∧ p.2.size + 0 = i.size + p.1 := by
  refine exists_foldlM_ok (P := fun p : Nat × Index => p.2.Sound)
    (R := fun p _ p' => p'.2.size + p.1 = p.2.size + p'.1) (fun _ _ => rfl)
    (fun h h' => by omega) ?_ batch h
  rintro ⟨count, i⟩ object (hi : i.Sound)
  obtain ⟨new, j, hj, hs, -⟩ := registerOne_registered hi object
  have hsize := registerOne_size hi hj
  exact ⟨(count + new.toNat, j), by simp only [hj]; rfl, hs, by simp only; omega⟩

/-- Forgetting counts what the index shrinks by. -/
theorem unregister_size {i : Index} (h : i.Sound) (batch : List Object) :
    ∃ p, i.unregister batch = .ok p ∧ p.2.Sound ∧ p.2.size + p.1 = i.size + 0 := by
  refine exists_foldlM_ok (P := fun p : Nat × Index => p.2.Sound)
    (R := fun p _ p' => p'.2.size + p'.1 = p.2.size + p.1) (fun _ _ => rfl)
    (fun h h' => by omega) ?_ batch h
  rintro ⟨count, i⟩ object (hi : i.Sound)
  obtain ⟨j, hj, r⟩ := unregisterKey_replaced hi object.key
  have hsize := unregisterKey_size hi hj
  exact ⟨(count + (i.contains object.key).toNat, j), by simp only [hj]; rfl,
    r.toSound hi (by simp), by simp only; omega⟩

theorem Registered.indexed_subset {i j : Index} {batch : List Object} (r : Registered i batch j) :
    i.indexed ⊆ j.indexed := by
  intro key hk
  rw [mem_indexed_iff_ne_none] at hk ⊢
  cases hl : lastMatchable? key batch with
  | none => rwa [r.keeps key hl]
  | some object =>
      obtain ⟨e, he, -⟩ := r.mirrors key object hl
      rw [he]
      exact Option.some_ne_none e

theorem Unregistered.indexed_eq {i j : Index} {batch : List Object} (u : Unregistered i batch j) :
    j.indexed = i.indexed \ (batch.map Object.key).toFinset := by
  ext key
  rw [Finset.mem_sdiff, mem_indexed_iff_ne_none, mem_indexed_iff_ne_none, List.mem_toFinset,
    List.mem_map, u key]
  by_cases hl : lastOf? key batch = none
  · rw [if_pos hl, and_iff_left]
    rintro ⟨object, ho, hk⟩
    exact lastOf?_eq_none_iff.mp hl object ho hk
  · rw [if_neg hl]
    simp only [lastOf?_eq_none_iff, not_forall, not_not, exists_prop] at hl
    simp [hl]

/-- **What a batch comes to when it is registered**: the keys that were not indexed and are now. -/
theorem register_count {i : Index} (h : i.Sound) (batch : List Object) :
    ∃ count j, i.register batch = .ok (count, j) ∧ j.Sound ∧ Registered i batch j ∧
      j.size = i.size + count ∧ count = (j.indexed \ i.indexed).card := by
  obtain ⟨⟨count, j⟩, hj, hs, r⟩ := register_registered h batch
  obtain ⟨p, hp, -, hsize⟩ := register_size h batch
  cases hj.symm.trans hp
  have hgrown : j.size = i.size + count := hsize
  refine ⟨count, j, hj, hs, r, hgrown, ?_⟩
  rw [Finset.card_sdiff_of_subset r.indexed_subset, card_indexed, card_indexed]
  omega

/-- **What a batch comes to when it is forgotten**: the keys of the batch that were indexed. -/
theorem unregister_count {i : Index} (h : i.Sound) (batch : List Object) :
    ∃ count j, i.unregister batch = .ok (count, j) ∧ j.Sound ∧ Unregistered i batch j ∧
      j.size + count = i.size ∧
      count = (i.indexed ∩ (batch.map Object.key).toFinset).card := by
  obtain ⟨⟨count, j⟩, hj, hs, u⟩ := unregister_unregistered h batch
  obtain ⟨p, hp, -, hsize⟩ := unregister_size h batch
  cases hj.symm.trans hp
  have hshrunk : j.size + count = i.size := hsize
  refine ⟨count, j, hj, hs, u, hshrunk, ?_⟩
  have hcard := Finset.card_sdiff_add_card_inter i.indexed (batch.map Object.key).toFinset
  rw [← u.indexed_eq, card_indexed, card_indexed] at hcard
  omega

end EntityResolution.Index
