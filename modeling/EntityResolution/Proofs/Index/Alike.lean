import EntityResolution.Proofs.Index.Counts
import EntityResolution.Proofs.Index.Restore
import EntityResolution.Proofs.Index.Ties

/-!
# Indexes that cannot be told apart

Two indexes may store their sets differently, and still give the same answer to whatever they are
asked: `Alike`.  For that it is enough that each key has entries in both that agree (`Agree`): one
and the same entry, or two that were made for one object.  The order in which objects and their
identifiers came does not matter then, nor what the buckets went through.

* `alike_of_agree`: sound indexes whose entries agree are alike.
* `Replaced.alike`: so are two indexes that differ from a third in the entry of one key, if these
  agree.
* `Registered.alike`: an index in which a batch is registered again is like the one before.
* `refresh_rebuilds`: to refresh an entry leaves what forgetting the key and registering the object
  anew does, and so does to register the object over the old entry.
-/

namespace EntityResolution

/-- The entries of a key in two indexes are one, or have been made for one object. -/
def Entry.Agree (o o' : Option Entry) : Prop :=
  o' = o ∨ ∃ object e e', o = some e ∧ e.Mirrors object ∧ o' = some e' ∧ e'.Mirrors object

namespace Index

/-- Whatever is asked of the indexes, they answer alike; a ranking up to the choice among ties that
the limit cuts through. -/
structure Alike (i j : Index) : Prop where
  content : SameContent i j
  link? : ∀ key, j.link? key = i.link? key
  lookup? : ∀ owners id, j.lookup? owners id = i.lookup? owners id
  stats : ∀ owners, j.stats owners = i.stats owners
  rank : ∀ limit ids, ∃ answer other, i.rank limit (.ofList ids) = .ok answer ∧
    j.rank limit (.ofList ids) = .ok other ∧ i.AlikeUpToTies limit ids.toFinset answer other

/-- **Sound indexes are alike** if they carry the same and have the same links. -/
theorem alike_of_carries {i j : Index} (hi : i.Sound) (hj : j.Sound)
    (hc : ∀ key id, j.Carries key id ↔ i.Carries key id)
    (hl : ∀ key, j.link? key = i.link? key) : Alike i j := by
  have hsame := sameContent_of_carries hi hj hc
  have hindexed : j.indexed = i.indexed := by
    ext key
    rw [mem_indexed, mem_indexed, hsame.contains]
  have htracked : j.tracked = i.tracked := by
    ext id
    rw [mem_tracked, mem_tracked, hsame.tracked]
  refine ⟨hsame, hl, fun owners id => ?_, fun owners => ?_, rank_alike hi hj hsame.idsOf⟩
  · simp only [Index.lookup?, bind_liveObject?, hl]
  · rw [stats_eq, stats_eq, hindexed, htracked]
    simp only [hl]

/-- **Entries that agree** make indexes alike. -/
theorem alike_of_agree {i j : Index} (hi : i.Sound) (hj : j.Sound)
    (h : ∀ key, Entry.Agree (i.get? key) (j.get? key)) : Alike i j := by
  refine alike_of_carries hi hj (fun key id => ?_) fun key => ?_
  · rcases h key with he | ⟨object, e, e', he, hm, he', hm'⟩
    · rw [Carries, Carries, he]
    · simp [Carries, he, he', hm.mem_iff, hm'.mem_iff]
  · rcases h key with he | ⟨object, e, e', he, hm, he', hm'⟩
    · rw [Index.link?, Index.link?, he]
    · simp [Index.link?, he, he', hm.link, hm'.link]

theorem Replaced.alike {i j l : Index} {key : Key} {o o' : Option Entry} (hj : j.Sound)
    (hl : l.Sound) (r : Replaced i key o j) (r' : Replaced i key o' l) (h : Entry.Agree o o') :
    Alike j l := by
  refine alike_of_agree hj hl fun k => ?_
  rw [r.get?_eq, r'.get?_eq]
  split
  · exact h
  · exact .inl rfl

/-- A batch that has been registered finds its work done. -/
theorem Registered.alike {i j l : Index} {batch : List Object} (hj : j.Sound) (hl : l.Sound)
    (r : Registered i batch j) (r' : Registered j batch l) : Alike j l := by
  refine alike_of_agree hj hl fun key => ?_
  cases hlast : lastMatchable? key batch with
  | none => exact .inl (r'.keeps key hlast)
  | some object =>
      obtain ⟨e, he, hm⟩ := r.mirrors key object hlast
      obtain ⟨e', he', hm'⟩ := r'.mirrors key object hlast
      exact .inr ⟨object, e, e', he, hm, he', hm'⟩

/-! ### Batches of one object -/

theorem register_singleton {i j : Index} {object : Object} {new : Bool}
    (h : i.registerOne object = .ok (new, j)) : i.register [object] = .ok (new.toNat, j) := by
  simp only [register, List.foldlM_cons, List.foldlM_nil, h]
  simp [bind, Except.bind, pure, Except.pure]

theorem unregister_singleton {i j : Index} {object : Object} {known : Bool}
    (h : i.unregisterKey object.key = .ok (known, j)) :
    i.unregister [object] = .ok (known.toNat, j) := by
  simp only [unregister, List.foldlM_cons, List.foldlM_nil, h]
  simp [bind, Except.bind, pure, Except.pure]

theorem update_singleton {i j : Index} {object : Object} (hc : i.contains object.key = true)
    (h : i.refresh object = .ok j) : i.update [object] = .ok j := by
  simp only [update, firstUnknown?, List.map_cons, List.map_nil, List.find?_cons, hc, Bool.not_true,
    List.find?_nil, refreshAll, List.foldlM_cons, List.foldlM_nil, h]
  rfl

/-- **A refresh is a rebuild.**  It leaves the index as it is left when the key is forgotten and the
object registered anew; if the object has an identifier to match on, registering it over the old
entry does the same. -/
theorem refresh_rebuilds {i : Index} (h : i.Sound) {object : Object}
    (hc : i.contains object.key = true) :
    ∃ j rest l, i.refresh object = .ok j ∧ i.unregisterKey object.key = .ok (true, rest) ∧
      rest.registerOne object = .ok (!object.entity.validIdentifiers.isEmpty, l) ∧ Alike l j ∧
      (object.entity.validIdentifiers ≠ [] →
        ∃ m, i.registerOne object = .ok (false, m) ∧ Alike m j) := by
  rw [contains_eq_isSome] at hc
  obtain ⟨old, hold⟩ := Option.isSome_iff_exists.mp hc
  obtain ⟨j, o, hj, rj, ho⟩ := refresh_replaced h hold
  obtain ⟨rest, hrest, rrest⟩ := unregisterKey_replaced h object.key
  have hsrest := rrest.toSound h (by simp)
  rw [contains_eq_isSome, hc] at hrest
  by_cases hv : object.entity.validIdentifiers = []
  · -- there is nothing to match on, so both ways the key stays forgotten
    rw [if_pos hv] at ho
    subst ho
    refine ⟨j, rest, rest, hj, hrest, ?_, ?_, fun hne => absurd hv hne⟩
    · rw [registerOne_of_nil hv, hv]
      rfl
    · exact rrest.alike hsrest (rj.toSound h (by simp)) rj (.inl rfl)
  · rw [if_neg hv] at ho
    obtain ⟨e, rfl, hm⟩ := ho
    have hsound : ∀ {k : Index} {e : Entry}, Replaced i object.key (some e) k →
        e.Mirrors object → k.Sound := fun r hm => r.toSound h fun _ he => by
      cases he
      exact hm.sound hv
    obtain ⟨l, e₁, hl, rl, hm₁⟩ := registerOne_of_none hsrest hv rrest.get?_self
    have rl' := rrest.trans rl
    refine ⟨j, rest, l, hj, hrest, ?_, ?_, fun _ => ?_⟩
    · rw [hl, List.isEmpty_eq_false_iff.mpr hv]
      rfl
    · exact rl'.alike (hsound rl' hm₁) (hsound rj hm) rj (.inr ⟨object, e₁, e, rfl, hm₁, rfl, hm⟩)
    · obtain ⟨m, e₂, hm', rm, hm₂⟩ := registerOne_replaced h hv
      rw [contains_eq_isSome, hc] at hm'
      exact ⟨m, hm',
        rm.alike (hsound rm hm₂) (hsound rj hm) rj (.inr ⟨object, e₂, e, rfl, hm₂, rfl, hm⟩)⟩

end Index

end EntityResolution
