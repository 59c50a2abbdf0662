import EntityResolution.Index.Change
import EntityResolution.Proofs.SmallSet.Members

/-!
# The two sides of an index

`i.Carries key id` is the view from the entries: the entry of `key` holds the identifier `id`.
`i.Lists id key` is the view from the buckets: the bucket of `id` holds the key `key`.  Linking
and unlinking change the second view only, one pair at a time.

* `link` and `linkAll` add pairs (`lists_link`, `lists_linkAll`).
* `unlink` and `unlinkAll` take pairs away, and succeed when the pairs are listed (`unlink_ok`,
  `unlinkAll_ok`).

Both keep the buckets sound: none is empty, and each is a well-formed set (`BucketsSound`).
-/

namespace EntityResolution.Index

/-! ### Looking up after a change -/

theorem get?_setEntry (i : Index) (key k : Key) (e : Entry) :
    (i.setEntry key e).get? k = if key = k then some e else i.get? k := by
  simp only [get?, setEntry, Std.TreeMap.getElem?_insert, Std.LawfulEqCmp.compare_eq_iff_eq]

/-- The index without the entry of a key; the buckets stay. -/
def eraseEntry (i : Index) (key : Key) : Index := { i with entries := i.entries.erase key }

theorem get?_eraseEntry (i : Index) (key k : Key) :
    (i.eraseEntry key).get? k = if key = k then none else i.get? k := by
  simp only [get?, eraseEntry, Std.TreeMap.getElem?_erase, Std.LawfulEqCmp.compare_eq_iff_eq]

theorem get?_congr {i j : Index} (h : j.entries = i.entries) (key : Key) :
    j.get? key = i.get? key := by
  rw [get?, get?, h]

theorem contains_eq_isSome (i : Index) (key : Key) : i.contains key = (i.get? key).isSome :=
  Std.TreeMap.contains_eq_isSome_getElem?

theorem candidates?_insert (i : Index) (id id' : Identifier) (b : SmallSet Key) :
    ({ i with buckets := i.buckets.insert id b } : Index).candidates? id' =
      if id = id' then some b else i.candidates? id' := by
  simp only [candidates?, Std.TreeMap.getElem?_insert, Std.LawfulEqCmp.compare_eq_iff_eq]

theorem candidates?_erase (i : Index) (id id' : Identifier) :
    ({ i with buckets := i.buckets.erase id } : Index).candidates? id' =
      if id = id' then none else i.candidates? id' := by
  simp only [candidates?, Std.TreeMap.getElem?_erase, Std.LawfulEqCmp.compare_eq_iff_eq]

/-- The object that the entry of a key is linked to. -/
def link? (i : Index) (key : Key) : Option Object := (i.get? key).bind Entry.link

/-! ### The two views -/

/-- The entry of the key holds the identifier. -/
def Carries (i : Index) (key : Key) (id : Identifier) : Prop :=
  ∃ e, i.get? key = some e ∧ id ∈ e.identifiers

/-- The bucket of the identifier holds the key. -/
def Lists (i : Index) (id : Identifier) (key : Key) : Prop :=
  ∃ b, i.candidates? id = some b ∧ key ∈ b

/-- Every bucket is a well-formed set and has a member. -/
def BucketsSound (i : Index) : Prop :=
  ∀ id b, i.candidates? id = some b → b.WellFormed ∧ b.isEmpty = false

/-- An identifier has a bucket as soon as some key is listed under it, and only then. -/
theorem BucketsSound.isSome_iff {i : Index} (h : BucketsSound i) (id : Identifier) :
    (i.candidates? id).isSome = true ↔ ∃ key, i.Lists id key := by
  rw [Option.isSome_iff_exists]
  constructor
  · rintro ⟨b, hb⟩
    obtain ⟨key, hk⟩ := SmallSet.isEmpty_eq_false_iff.mp (h id b hb).2
    exact ⟨key, b, hb, hk⟩
  · rintro ⟨key, b, hb, -⟩
    exact ⟨b, hb⟩

/-- The views hang on one map each. -/
theorem lists_congr {i j : Index} (h : j.buckets = i.buckets) (id : Identifier) (key : Key) :
    j.Lists id key ↔ i.Lists id key := by
  rw [Lists, Lists, candidates?, candidates?, h]

theorem lists_setEntry (i : Index) (key k : Key) (e : Entry) (id : Identifier) :
    (i.setEntry key e).Lists id k ↔ i.Lists id k := lists_congr rfl id k

theorem BucketsSound.congr {i j : Index} (h : BucketsSound i) (e : j.buckets = i.buckets) :
    BucketsSound j := by
  intro id b hb
  rw [candidates?, e] at hb
  exact h id b hb

/-! ### Linking -/

theorem BucketsSound.wellFormed_getD {i : Index} (h : BucketsSound i) (id : Identifier) :
    (i.buckets.getD id .empty).WellFormed := by
  rw [Std.TreeMap.getD_eq_getD_getElem?]
  cases e : i.buckets[id]? with
  | none => exact SmallSet.wellFormed_empty
  | some b => exact (h id b e).1

theorem mem_getD_bucket (i : Index) (id : Identifier) (key : Key) :
    key ∈ i.buckets.getD id .empty ↔ i.Lists id key := by
  rw [Std.TreeMap.getD_eq_getD_getElem?, Lists, candidates?]
  cases e : i.buckets[id]? with
  | none => simp
  | some b => simp

theorem BucketsSound.link {i : Index} (h : BucketsSound i) (key : Key) (id : Identifier) :
    BucketsSound (i.link key id) := by
  intro id' b hb
  rw [Index.link, candidates?_insert] at hb
  by_cases e : id = id'
  · rw [if_pos e] at hb
    cases Option.some.inj hb
    have hw := h.wellFormed_getD id
    exact ⟨hw.insert key,
      SmallSet.isEmpty_eq_false_iff.mpr ⟨key, (SmallSet.mem_insert hw).mpr (.inl rfl)⟩⟩
  · rw [if_neg e] at hb
    exact h id' b hb

theorem lists_link {i : Index} (h : BucketsSound i) (key k : Key) (id id' : Identifier) :
    (i.link key id).Lists id' k ↔ id = id' ∧ k = key ∨ i.Lists id' k := by
  rw [Lists, link, candidates?_insert]
  by_cases e : id = id'
  · subst e
    simp only [if_true, Option.some.injEq, exists_eq_left', true_and,
      SmallSet.mem_insert (h.wellFormed_getD id), mem_getD_bucket]
  · simp only [e, if_false, false_and, false_or]
    rfl

theorem linkAll_entries (i : Index) (key : Key) (ids : List Identifier) :
    (i.linkAll key ids).entries = i.entries := by
  induction ids generalizing i with
  | nil => rfl
  | cons id ids ih => exact ih (i.link key id)

theorem BucketsSound.linkAll {i : Index} (h : BucketsSound i) (key : Key)
    (ids : List Identifier) : BucketsSound (i.linkAll key ids) := by
  induction ids generalizing i with
  | nil => exact h
  | cons id ids ih => exact ih (h.link key id)

theorem lists_linkAll {i : Index} (h : BucketsSound i) (key k : Key) (ids : List Identifier)
    (id : Identifier) :
    (i.linkAll key ids).Lists id k ↔ id ∈ ids ∧ k = key ∨ i.Lists id k := by
  induction ids generalizing i with
  | nil => simp [linkAll]
  | cons id' ids ih =>
      rw [show i.linkAll key (id' :: ids) = (i.link key id').linkAll key ids from rfl,
        ih (h.link key id'), lists_link h, List.mem_cons, eq_comm (a := id')]
      tauto

/-! ### Unlinking -/

/-- The index after a pair has been taken out of the second view. -/
structure Unlinked (i : Index) (key : Key) (ids : List Identifier) (j : Index) : Prop where
  entries : j.entries = i.entries
  sound : BucketsSound j
  lists : ∀ id k, j.Lists id k ↔ ¬(id ∈ ids ∧ k = key) ∧ i.Lists id k

/-- What is listed after the bucket of one identifier has lost a key, whether it stays or goes. -/
theorem lists_of_erased {i j : Index} {id : Identifier} {b : SmallSet Key}
    (hb : i.candidates? id = some b) (hw : b.WellFormed) (key : Key) {o : Option (SmallSet Key)}
    (hj : ∀ id', j.candidates? id' = if id = id' then o else i.candidates? id')
    (ho : ∀ k, (∃ r, o = some r ∧ k ∈ r) ↔ k ∈ (b.erase key).2) (id' : Identifier) (k : Key) :
    j.Lists id' k ↔ ¬(id' ∈ [id] ∧ k = key) ∧ i.Lists id' k := by
  rw [Lists, hj, List.mem_singleton]
  by_cases e : id = id'
  · subst e
    simp only [if_true, ho, SmallSet.mem_erase hw, true_and, Lists, hb, Option.some.injEq,
      exists_eq_left', ne_eq]
  · simp only [e, if_false, eq_comm (a := id'), false_and, not_false_eq_true, true_and]
    rfl

/-- A pair that is listed can be taken away. -/
theorem unlink_ok {i : Index} (h : BucketsSound i) {key : Key} {id : Identifier}
    (hl : i.Lists id key) : ∃ j, i.unlink key id = .ok j ∧ Unlinked i key [id] j := by
  obtain ⟨b, hb, hk⟩ := hl
  have hw := (h id b hb).1
  have hpair : b.erase key = (true, (b.erase key).2) := by
    refine Prod.ext ?_ rfl
    rw [SmallSet.erase_fst hw, SmallSet.contains_eq_true_iff.mpr hk]
  have hu : i.unlink key id =
      if (b.erase key).2.isEmpty then .ok { i with buckets := i.buckets.erase id }
      else .ok { i with buckets := i.buckets.insert id (b.erase key).2 } := by
    rw [candidates?] at hb
    simp only [unlink, hb]
    rw [hpair]
  -- the bucket goes with its last key, so that no empty bucket is left behind
  by_cases he : (b.erase key).2.isEmpty = true
  · refine ⟨{ i with buckets := i.buckets.erase id }, by rw [hu, if_pos he], rfl, ?_, ?_⟩
    · intro id' b' hb'
      rw [candidates?_erase] at hb'
      split at hb'
      · cases hb'
      · exact h id' b' hb'
    · refine lists_of_erased hb hw key (fun id' => candidates?_erase i id id') fun k => ?_
      simpa using SmallSet.isEmpty_iff.mp he k
  · refine ⟨{ i with buckets := i.buckets.insert id (b.erase key).2 }, by rw [hu, if_neg he],
      rfl, ?_, ?_⟩
    · intro id' b' hb'
      rw [candidates?_insert] at hb'
      split at hb'
      · cases Option.some.inj hb'
        exact ⟨hw.erase key, Bool.eq_false_iff.mpr he⟩
      · exact h id' b' hb'
    · exact lists_of_erased hb hw key (fun id' => candidates?_insert i id id' _) fun k => by simp

/-- Pairs that are listed can be taken away one after the other. -/
theorem unlinkAll_ok {i : Index} (h : BucketsSound i) {key : Key} {ids : List Identifier}
    (hd : ids.Nodup) (hl : ∀ id ∈ ids, i.Lists id key) :
    ∃ j, i.unlinkAll key ids = .ok j ∧ Unlinked i key ids j := by
  induction ids generalizing i with
  | nil => exact ⟨i, rfl, rfl, h, by simp⟩
  | cons id ids ih =>
      obtain ⟨hid, hd⟩ := List.nodup_cons.mp hd
      obtain ⟨j, hj, hu⟩ := unlink_ok h (hl id List.mem_cons_self)
      -- the identifiers still to come are others, so their pairs are still listed
      have hl' : ∀ id' ∈ ids, j.Lists id' key := by
        intro id' h'
        refine (hu.lists id' key).mpr ⟨?_, hl id' (List.mem_cons_of_mem _ h')⟩
        rintro ⟨hm, -⟩
        exact hid (List.mem_singleton.mp hm ▸ h')
      obtain ⟨l, hl, hv⟩ := ih hu.sound hd hl'
      refine ⟨l, ?_, hv.entries.trans hu.entries, hv.sound, fun id' k => ?_⟩
      · rw [unlinkAll, List.foldlM_cons, hj]
        exact hl
      · rw [hv.lists, hu.lists, List.mem_singleton, List.mem_cons]
        tauto

end EntityResolution.Index
