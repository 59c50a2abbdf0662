import EntityResolution.Proofs.Index.Buckets

/-!
# The maps of an index in lockstep

An index keeps its two maps in step: a key is in the bucket of an identifier exactly when its
entry holds the identifier, nothing is empty, and only identifiers with a value are indexed
(`Lockstep`).  An index is *sound* when moreover its sets are well formed (`Sound`).

Every operation on one key does the same thing to the maps: it sets, or takes away, the entry of
that key, and brings the buckets in line with it (`Replaced`).  Each has a lemma that says which
entry it sets, and that no lookup on the way fails:

* `unregisterKey_replaced`: no entry.
* `refresh_replaced` and `registerOne_replaced`: an entry that mirrors the object.
* `insertRecord_replaced`: the old entry with the identifiers of the record added.

A sound index stays sound when a sound entry is put into it (`Replaced.toSound`).
-/

namespace EntityResolution

namespace Entry

/-- An entry that an index may hold. -/
structure Sound (e : Entry) : Prop where
  wellFormed : e.identifiers.WellFormed
  inhabited : e.identifiers.isEmpty = false
  valid : ∀ id ∈ e.identifiers, id.value ≠ ""

/-- The entry holds the identifiers with a value that the object has, and is linked to it. -/
structure Mirrors (e : Entry) (object : Object) : Prop where
  wellFormed : e.identifiers.WellFormed
  mem_iff : ∀ id, id ∈ e.identifiers ↔ id ∈ object.entity.validIdentifiers
  link : e.link = some object

theorem Mirrors.sound {e : Entry} {object : Object} (h : e.Mirrors object)
    (hne : object.entity.validIdentifiers ≠ []) : e.Sound := by
  refine ⟨h.wellFormed, ?_, fun id hid => ?_⟩
  · obtain ⟨id, hid⟩ := List.exists_mem_of_ne_nil _ hne
    exact SmallSet.isEmpty_eq_false_iff.mpr ⟨id, (h.mem_iff id).mpr hid⟩
  · have hv := ((h.mem_iff id).mp hid)
    rw [Entity.validIdentifiers, List.mem_filter, Identifier.isValid] at hv
    simpa using hv.2

end Entry

namespace Index

/-- **Lockstep.**  The two maps are each other's inverse, no bucket and no entry is empty, and
every indexed identifier has a value. -/
structure Lockstep (i : Index) : Prop where
  lists_iff_carries : ∀ id key, i.Lists id key ↔ i.Carries key id
  bucket_inhabited : ∀ id b, i.candidates? id = some b → b.isEmpty = false
  entry_inhabited : ∀ key e, i.get? key = some e → e.identifiers.isEmpty = false
  valid : ∀ key id, i.Carries key id → id.value ≠ ""

/-- An index in lockstep whose sets are well formed. -/
structure Sound (i : Index) : Prop extends Lockstep i where
  entry_wellFormed : ∀ key e, i.get? key = some e → e.identifiers.WellFormed
  bucket_wellFormed : ∀ id b, i.candidates? id = some b → b.WellFormed

theorem Sound.buckets {i : Index} (h : i.Sound) : BucketsSound i :=
  fun id b hb => ⟨h.bucket_wellFormed id b hb, h.bucket_inhabited id b hb⟩

theorem Sound.entry {i : Index} (h : i.Sound) {key : Key} {e : Entry} (he : i.get? key = some e) :
    e.Sound :=
  ⟨h.entry_wellFormed key e he, h.entry_inhabited key e he,
    fun id hid => h.valid key id ⟨e, he, hid⟩⟩

/-- An identifier has a bucket exactly when some entry holds it. -/
theorem Sound.isSome_candidates?_iff {i : Index} (h : i.Sound) (id : Identifier) :
    (i.candidates? id).isSome = true ↔ ∃ key, i.Carries key id := by
  simp only [h.buckets.isSome_iff, h.lists_iff_carries]

theorem get?_empty (key : Key) : empty.get? key = none := Std.TreeMap.getElem?_emptyc

theorem candidates?_empty (id : Identifier) : empty.candidates? id = none :=
  Std.TreeMap.getElem?_emptyc

theorem sound_empty : empty.Sound where
  lists_iff_carries id key := by simp [Lists, Carries, get?_empty, candidates?_empty]
  bucket_inhabited id b hb := by simp [candidates?_empty] at hb
  entry_inhabited key e he := by simp [get?_empty] at he
  valid key id h := by simp [Carries, get?_empty] at h
  entry_wellFormed key e he := by simp [get?_empty] at he
  bucket_wellFormed id b hb := by simp [candidates?_empty] at hb

/-! ### Putting an entry -/

/-- `j` is `i` with `o` in the place of the key's entry, and with the buckets in line. -/
structure Replaced (i : Index) (key : Key) (o : Option Entry) (j : Index) : Prop where
  get?_eq : ∀ k, j.get? k = if key = k then o else i.get? k
  buckets : BucketsSound j
  lists : ∀ id k, j.Lists id k ↔
    if key = k then ∃ e, o = some e ∧ id ∈ e.identifiers else i.Lists id k

theorem Replaced.get?_self {i j : Index} {key : Key} {o : Option Entry} (r : Replaced i key o j) :
    j.get? key = o := by
  rw [r.get?_eq, if_pos rfl]

theorem Replaced.trans {i j l : Index} {key : Key} {o o' : Option Entry}
    (r : Replaced i key o j) (r' : Replaced j key o' l) : Replaced i key o' l where
  get?_eq k := by
    rw [r'.get?_eq, r.get?_eq]
    split <;> rfl
  buckets := r'.buckets
  lists id k := by
    rw [r'.lists, r.lists]
    split <;> rfl

/-- The other entries carry what they carried. -/
theorem Replaced.carries {i j : Index} {key : Key} {o : Option Entry} (r : Replaced i key o j)
    (id : Identifier) (k : Key) :
    j.Carries k id ↔ if key = k then ∃ e, o = some e ∧ id ∈ e.identifiers else i.Carries k id := by
  rw [Carries, r.get?_eq]
  split <;> rfl

/-- **A sound index stays sound** when a sound entry, or none, takes the place of another. -/
theorem Replaced.toSound {i j : Index} {key : Key} {o : Option Entry} (r : Replaced i key o j)
    (h : i.Sound) (ho : ∀ e, o = some e → e.Sound) : j.Sound := by
  have hentry : ∀ k e, j.get? k = some e → e.Sound := by
    intro k e he
    rw [r.get?_eq] at he
    split at he
    · exact ho e he
    · exact h.entry he
  refine ⟨⟨fun id k => ?_, fun id b hb => (r.buckets id b hb).2,
    fun k e he => (hentry k e he).inhabited, ?_⟩, fun k e he => (hentry k e he).wellFormed,
    fun id b hb => (r.buckets id b hb).1⟩
  · rw [r.lists, r.carries, h.lists_iff_carries]
  · rintro k id ⟨e, he, hid⟩
    exact (hentry k e he).valid id hid

/-! ### Forgetting a key -/

/-- A key whose buckets are in line with its entry can be forgotten, also in the middle of a
change, when the entry may be empty. -/
theorem unregisterKey_ok {i : Index} (hb : BucketsSound i) (key : Key)
    (hw : ∀ e, i.get? key = some e → e.identifiers.WellFormed)
    (hl : ∀ id, i.Lists id key ↔ i.Carries key id) :
    ∃ j, i.unregisterKey key = .ok (i.contains key, j) ∧ Replaced i key none j := by
  cases he : i.get? key with
  | none =>
      refine ⟨i, by simp [unregisterKey, he, contains_eq_isSome], fun k => ?_, hb, fun id k => ?_⟩
      · split
        · next e => rw [← e, he]
        · rfl
      · split
        · next e => simp [← e, hl, Carries, he]
        · rfl
  | some e =>
      have hlists : ∀ id k, (i.eraseEntry key).Lists id k ↔ i.Lists id k := lists_congr rfl
      have hl' : ∀ id ∈ e.identifiers.toList, (i.eraseEntry key).Lists id key :=
        fun id hid => (hlists id key).mpr ((hl id).mpr ⟨e, he, hid⟩)
      obtain ⟨j, hj, u⟩ := unlinkAll_ok (i := i.eraseEntry key) (hb.congr rfl)
        (SmallSet.nodup_toList (hw e he)) hl'
      refine ⟨j, ?_, fun k => ?_, u.sound, fun id k => ?_⟩
      · have hc : i.contains key = true := by rw [contains_eq_isSome, he]; rfl
        rw [eraseEntry] at hj
        simp only [unregisterKey, he, hj, hc]
        rfl
      · rw [← get?_eraseEntry, get?_congr u.entries]
      · rw [u.lists, hlists]
        by_cases ek : key = k
        · subst ek
          have hc : i.Lists id key → id ∈ e.identifiers := by
            intro h
            obtain ⟨e', he', hid⟩ := (hl id).mp h
            rw [he] at he'
            cases he'
            exact hid
          simp only [SmallSet.mem_toList, and_true, if_true, reduceCtorEq, false_and, exists_false,
            iff_false, not_and]
          exact fun hn h => hn (hc h)
        · simp [ek, Ne.symm ek]

/-- **Forgetting a key** takes its entry away, and succeeds. -/
theorem unregisterKey_replaced {i : Index} (h : i.Sound) (key : Key) :
    ∃ j, i.unregisterKey key = .ok (i.contains key, j) ∧ Replaced i key none j :=
  unregisterKey_ok h.buckets key (fun e he => h.entry_wellFormed key e he)
    fun id => h.lists_iff_carries id key

/-! ### Putting an entry in three moves -/

/-- **The common part of all changes.**  An entry is set, the identifiers that left it are
unlinked, and those that are new in it are linked. -/
theorem relink_ok {i : Index} (h : i.Sound) {key : Key} (e : Entry)
    {stale : List Identifier} (fresh : List Identifier) (hd : stale.Nodup)
    (hs : ∀ id ∈ stale, i.Carries key id)
    (hm : ∀ id, id ∈ e.identifiers ↔ id ∈ fresh ∨ id ∉ stale ∧ i.Carries key id) :
    ∃ j, (i.setEntry key e).unlinkAll key stale = .ok j ∧
      Replaced i key (some e) (j.linkAll key fresh) := by
  -- the buckets are still the old ones when the first identifier is unlinked
  have hl : ∀ id ∈ stale, (i.setEntry key e).Lists id key := fun id hid =>
    (lists_setEntry i key key e id).mpr ((h.lists_iff_carries id key).mpr (hs id hid))
  obtain ⟨j, hj, u⟩ := unlinkAll_ok (i := i.setEntry key e) (h.buckets.congr rfl) hd hl
  refine ⟨j, hj, fun k => ?_, u.sound.linkAll key fresh, fun id k => ?_⟩
  · rw [← get?_setEntry, get?_congr ((linkAll_entries j key fresh).trans u.entries)]
  · rw [lists_linkAll u.sound, u.lists, lists_setEntry]
    by_cases ek : key = k
    · subst ek
      simp only [and_true, if_true, Option.some.injEq, exists_eq_left', hm, h.lists_iff_carries]
    · simp [ek, Ne.symm ek]

/-! ### Bringing an entry in line with an object -/

/-- The members of the set that `refresh` keeps are those of the set that the object asks for. -/
theorem mem_kept {old current : SmallSet Identifier} (ho : old.WellFormed) (id : Identifier) :
    id ∈ (old.eraseMany (old.toList.filter fun x => !current.contains x)).insertMany
        (current.toList.filter fun x => !old.contains x) ↔ id ∈ current := by
  rw [SmallSet.mem_insertMany (ho.eraseMany _), SmallSet.mem_eraseMany ho]
  simp only [List.mem_filter, Bool.not_eq_true', ← Bool.not_eq_true,
    SmallSet.contains_eq_true_iff, SmallSet.mem_toList]
  tauto

/-- The first part of a refresh puts the identifiers that the object asks for; it is all of it
unless there are none. -/
theorem refresh_relinks {i : Index} (h : i.Sound) {object : Object} {e : Entry}
    (he : i.get? object.key = some e) :
    ∃ kept j, SmallSet.WellFormed kept ∧
      (∀ id, id ∈ kept ↔ id ∈ object.entity.validIdentifiers) ∧
      Replaced i object.key (some ⟨kept, some object⟩) j ∧
      i.refresh object =
        if kept.isEmpty then (do return (← j.unregisterKey object.key).2) else .ok j := by
  have hw := h.entry_wellFormed _ e he
  have hcar : ∀ id, i.Carries object.key id ↔ id ∈ e.identifiers := by
    intro id
    rw [Carries, he]
    simp
  generalize hc : SmallSet.ofList object.entity.validIdentifiers = current
  generalize hs : (e.identifiers.toList.filter fun x => !current.contains x) = stale
  generalize hf : (current.toList.filter fun x => !e.identifiers.contains x) = fresh
  generalize hkept : (e.identifiers.eraseMany stale).insertMany fresh = kept
  have hkw : kept.WellFormed := hkept ▸ (hw.eraseMany stale).insertMany fresh
  have hkm : ∀ id, id ∈ kept ↔ id ∈ object.entity.validIdentifiers := by
    intro id
    rw [← hkept, ← hs, ← hf, mem_kept hw, ← hc, SmallSet.mem_ofList]
  have hstale : ∀ id ∈ stale, i.Carries object.key id := by
    intro id hid
    rw [← hs] at hid
    exact (hcar id).mpr (List.mem_filter.mp hid).1
  obtain ⟨j, hj, r⟩ := relink_ok h ⟨kept, some object⟩ fresh
    (hs ▸ (SmallSet.nodup_toList hw).filter _) hstale fun id => by
      rw [← hkept, SmallSet.mem_insertMany (hw.eraseMany _), SmallSet.mem_eraseMany hw, hcar]
  refine ⟨kept, j.linkAll object.key fresh, hkw, hkm, r, ?_⟩
  simp only [refresh, he, hc, hs, hf, hkept, hj]
  rfl

/-- **Refreshing** an indexed key sets an entry that mirrors the object, or none if the object has
no identifier with a value, and succeeds. -/
theorem refresh_replaced {i : Index} (h : i.Sound) {object : Object} {e : Entry}
    (he : i.get? object.key = some e) :
    ∃ j o, i.refresh object = .ok j ∧ Replaced i object.key o j ∧
      if object.entity.validIdentifiers = [] then o = none
      else ∃ e', o = some e' ∧ e'.Mirrors object := by
  obtain ⟨kept, j, hkw, hkm, r, hrun⟩ := refresh_relinks h he
  by_cases hv : object.entity.validIdentifiers = []
  · have hempty : kept.isEmpty = true := by
      rw [SmallSet.isEmpty_iff]
      intro id hid
      simpa [hv] using (hkm id).mp hid
    -- the entry is there, but empty: not a sound index, yet its key can be forgotten
    obtain ⟨l, hl, r'⟩ := unregisterKey_ok r.buckets object.key
      (fun e' he' => by
        rw [r.get?_self] at he'
        cases he'
        exact hkw)
      (fun id => by rw [r.lists, r.carries, if_pos rfl, if_pos rfl])
    refine ⟨l, none, ?_, r.trans r', by simp [hv]⟩
    rw [hrun, if_pos hempty, hl]
    rfl
  · have hne : ¬kept.isEmpty = true := by
      obtain ⟨id, hid⟩ := List.exists_mem_of_ne_nil _ hv
      rw [SmallSet.isEmpty_iff]
      exact fun hno => hno id ((hkm id).mpr hid)
    refine ⟨j, _, by rw [hrun, if_neg hne], r, ?_⟩
    rw [if_neg hv]
    exact ⟨_, rfl, hkw, hkm, rfl⟩

/-- An object whose key is not indexed is nothing to refresh. -/
theorem refresh_of_none {i : Index} {object : Object} (h : i.get? object.key = none) :
    i.refresh object = .ok i := by
  simp only [refresh, h]

/-! ### Registering an object -/

/-- An object without an identifier that has a value is passed over. -/
theorem registerOne_of_nil {i : Index} {object : Object}
    (h : object.entity.validIdentifiers = []) : i.registerOne object = .ok (false, i) := by
  simp [registerOne, h, SmallSet.ofList, SmallSet.insertMany, SmallSet.isEmpty]

/-- An object whose key is new gets an entry of its own. -/
theorem registerOne_of_none {i : Index} (h : i.Sound) {object : Object}
    (hv : object.entity.validIdentifiers ≠ []) (he : i.get? object.key = none) :
    ∃ j e, i.registerOne object = .ok (true, j) ∧ Replaced i object.key (some e) j ∧
      e.Mirrors object := by
  have hc : i.contains object.key = false := by rw [contains_eq_isSome, he]; rfl
  generalize hs : SmallSet.ofList object.entity.validIdentifiers = current
  have hmem : ∀ id, id ∈ current ↔ id ∈ object.entity.validIdentifiers := by
    intro id
    rw [← hs, SmallSet.mem_ofList]
  have hne : current.isEmpty = false := by
    obtain ⟨id, hid⟩ := List.exists_mem_of_ne_nil _ hv
    exact SmallSet.isEmpty_eq_false_iff.mpr ⟨id, (hmem id).mpr hid⟩
  generalize hn : (Entry.ofIdentifiers current.toList).attach object = e
  have hm : e.Mirrors object := by
    rw [← hn]
    refine ⟨SmallSet.wellFormed_ofList _, fun id => ?_, rfl⟩
    exact SmallSet.mem_ofList.trans (SmallSet.mem_toList.trans (hmem id))
  obtain ⟨j, hj, r⟩ := relink_ok h e current.toList List.nodup_nil (by simp) fun id => by
    rw [hm.mem_iff, SmallSet.mem_toList, hmem, Carries, he]
    simp
  cases hj
  refine ⟨_, e, ?_, r, hm⟩
  simp [registerOne, hs, hne, hc, hn]

/-- **Registering** any other object sets an entry that mirrors it, tells whether the key is new,
and succeeds. -/
theorem registerOne_replaced {i : Index} (h : i.Sound) {object : Object}
    (hv : object.entity.validIdentifiers ≠ []) :
    ∃ j e, i.registerOne object = .ok (!i.contains object.key, j) ∧
      Replaced i object.key (some e) j ∧ e.Mirrors object := by
  cases he : i.get? object.key with
  | none =>
      have hc : i.contains object.key = false := by rw [contains_eq_isSome, he]; rfl
      rw [hc]
      exact registerOne_of_none h hv he
  | some e =>
      have hc : i.contains object.key = true := by rw [contains_eq_isSome, he]; rfl
      have hne : (SmallSet.ofList object.entity.validIdentifiers).isEmpty = false := by
        obtain ⟨id, hid⟩ := List.exists_mem_of_ne_nil _ hv
        exact SmallSet.isEmpty_eq_false_iff.mpr ⟨id, SmallSet.mem_ofList.mpr hid⟩
      obtain ⟨j, o, hj, r, ho⟩ := refresh_replaced h he
      rw [if_neg hv] at ho
      obtain ⟨e', rfl, hm⟩ := ho
      refine ⟨j, e', ?_, r, hm⟩
      simp only [registerOne, hne, hc, hj]
      rfl

/-! ### Merging a record -/

/-- A record without an identifier that has a value is passed over. -/
theorem insertRecord_of_nil {i : Index} {record : Record} (h : record.validIdentifiers = []) :
    i.insertRecord record = (false, i) := by
  simp [insertRecord, h]

/-- The entry that a record is merged into: that of its key, or an empty one. -/
theorem getD_entry {i : Index} (h : i.Sound) (key : Key) :
    ((i.get? key).getD {}).identifiers.WellFormed ∧
      (∀ id, id ∈ ((i.get? key).getD {}).identifiers ↔ i.Carries key id) ∧
      ((i.get? key).getD {}).link = (i.get? key).bind Entry.link := by
  cases he : i.get? key with
  | none => exact ⟨SmallSet.wellFormed_empty, fun id => by simp [Carries, he], rfl⟩
  | some e => exact ⟨h.entry_wellFormed key e he, fun id => by simp [Carries, he], rfl⟩

/-- **Merging** any other record adds its identifiers to the entry of its key, and keeps the
link. -/
theorem insertRecord_replaced {i : Index} (h : i.Sound) {record : Record}
    (hv : record.validIdentifiers ≠ []) :
    ∃ j e, i.insertRecord record = (true, j) ∧ Replaced i record.key (some e) j ∧
      e.identifiers.WellFormed ∧
      (∀ id, id ∈ e.identifiers ↔ id ∈ record.validIdentifiers ∨ i.Carries record.key id) ∧
      e.link = (i.get? record.key).bind Entry.link := by
  obtain ⟨hw, hcar, hlink⟩ := getD_entry h record.key
  generalize hold : (i.get? record.key).getD {} = old at hw hcar hlink
  generalize hn : ({ old with
    identifiers := (old.identifiers.absorb record.validIdentifiers).1 } : Entry) = e
  have hew : e.identifiers.WellFormed := by
    rw [← hn]
    exact SmallSet.absorb_fst old.identifiers _ ▸ hw.insertMany _
  have hem : ∀ id, id ∈ e.identifiers ↔
      id ∈ record.validIdentifiers ∨ i.Carries record.key id := by
    intro id
    rw [← hn, SmallSet.absorb_fst, ← hcar]
    exact SmallSet.mem_insertMany hw
  -- only what the entry did not hold is linked
  obtain ⟨j, hj, r⟩ := relink_ok h e (old.identifiers.absorb record.validIdentifiers).2
    List.nodup_nil (by simp) fun id => by
      rw [hem, SmallSet.mem_absorb_snd hw, hcar]
      simp only [List.not_mem_nil, not_false_eq_true, true_and]
      tauto
  cases hj
  refine ⟨_, e, ?_, r, hew, hem, by rw [← hn, ← hlink]⟩
  simp [insertRecord, hv, hold, hn]

theorem insertRecord_sound {i : Index} (h : i.Sound) (record : Record) :
    (i.insertRecord record).2.Sound := by
  by_cases hv : record.validIdentifiers = []
  · rw [insertRecord_of_nil hv]
    exact h
  · obtain ⟨j, e, hj, r, hw, hm, -⟩ := insertRecord_replaced h hv
    rw [hj]
    refine r.toSound h fun e' he' => ?_
    cases he'
    refine ⟨hw, ?_, fun id hid => ?_⟩
    · obtain ⟨id, hid⟩ := List.exists_mem_of_ne_nil _ hv
      exact SmallSet.isEmpty_eq_false_iff.mpr ⟨id, (hm id).mpr (.inl hid)⟩
    · rcases (hm id).mp hid with hr | hc
      · simpa [Identifier.isValid] using (List.mem_filter.mp hr).2
      · exact h.valid _ id hc

end Index

end EntityResolution
