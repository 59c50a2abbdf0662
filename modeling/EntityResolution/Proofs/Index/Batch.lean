import EntityResolution.Proofs.Index.Lockstep

/-!
# What a batch leaves in the index

`register`, `update`, `unregister` and the merging of records work through a batch, one object or
record at a time.  Whatever the batch, a sound index comes out sound, and no lookup fails on the
way.  The one request that is refused is an update with a key that is not indexed.

Of the objects with one key the last one decides what is left:

* `register_registered`: an object with an identifier to match on leaves an entry that mirrors it,
  and any other object leaves the entry of its key alone (`Registered`).
* `update_refreshed`: an object leaves an entry that mirrors it, or none if it has no identifier to
  match on; a key that has lost its entry does not get it back (`Refreshed`).
* `unregister_unregistered`: the keys of the batch have no entry (`Unregistered`).

Each of these relations holds for a batch of one object, and passes from two batches to the one
followed by the other.
-/

namespace EntityResolution.Index

/-- A loop succeeds, keeps what each of its rounds keeps, and does to the state what a relation
says that the rounds do and that passes to rounds one after the other. -/
theorem exists_foldlM_ok {α β ε : Type} {P : β → Prop} {R : β → List α → β → Prop}
    {f : β → α → Except ε β} (hnil : ∀ b, P b → R b [] b)
    (happend : ∀ {b b₁ b₂ front back}, R b front b₁ → R b₁ back b₂ → R b (front ++ back) b₂)
    (hf : ∀ b a, P b → ∃ b', f b a = .ok b' ∧ P b' ∧ R b [a] b') (items : List α) {b : β}
    (hb : P b) : ∃ b', items.foldlM f b = .ok b' ∧ P b' ∧ R b items b' := by
  induction items generalizing b with
  | nil => exact ⟨b, rfl, hb, hnil b hb⟩
  | cons a items ih =>
      obtain ⟨b₁, h₁, hb₁, r₁⟩ := hf b a hb
      obtain ⟨b₂, h₂, hb₂, r₂⟩ := ih hb₁
      refine ⟨b₂, ?_, hb₂, happend r₁ r₂⟩
      rw [List.foldlM_cons, h₁]
      exact h₂

/-! ### The last object with a key -/

/-- The last object of a batch with the key. -/
def lastOf? (key : Key) (batch : List Object) : Option Object :=
  batch.reverse.find? fun object => object.key = key

/-- The last object of a batch with the key that has an identifier to match on. -/
def lastMatchable? (key : Key) (batch : List Object) : Option Object :=
  lastOf? key (batch.filter fun object => object.entity.validIdentifiers ≠ [])

theorem lastOf?_append (key : Key) (front back : List Object) :
    lastOf? key (front ++ back) = (lastOf? key back).or (lastOf? key front) := by
  rw [lastOf?, List.reverse_append, List.find?_append]
  rfl

theorem lastMatchable?_append (key : Key) (front back : List Object) :
    lastMatchable? key (front ++ back) =
      (lastMatchable? key back).or (lastMatchable? key front) := by
  rw [lastMatchable?, List.filter_append, lastOf?_append]
  rfl

theorem lastOf?_singleton (key : Key) (object : Object) :
    lastOf? key [object] = if object.key = key then some object else none := by
  by_cases hk : object.key = key
  · simp [lastOf?, hk]
  · simp [lastOf?, hk]

theorem lastMatchable?_singleton (key : Key) (object : Object) :
    lastMatchable? key [object] =
      if object.key = key ∧ object.entity.validIdentifiers ≠ [] then some object else none := by
  by_cases hv : object.entity.validIdentifiers = []
  · simp [lastMatchable?, hv, lastOf?]
  · simp [lastMatchable?, hv, lastOf?_singleton]

theorem key_of_lastOf? {key : Key} {batch : List Object} {object : Object}
    (h : lastOf? key batch = some object) : object.key = key := by
  simpa using List.find?_some h

theorem mem_of_lastOf? {key : Key} {batch : List Object} {object : Object}
    (h : lastOf? key batch = some object) : object ∈ batch :=
  List.mem_reverse.mp (List.mem_of_find?_eq_some h)

theorem lastOf?_eq_none_iff {key : Key} {batch : List Object} :
    lastOf? key batch = none ↔ ∀ object ∈ batch, object.key ≠ key := by
  simp [lastOf?]

theorem lastMatchable?_eq_none_iff {key : Key} {batch : List Object} :
    lastMatchable? key batch = none ↔
      ∀ object ∈ batch, object.key = key → object.entity.validIdentifiers = [] := by
  rw [lastMatchable?, lastOf?_eq_none_iff]
  simp only [List.mem_filter, decide_eq_true_eq]
  exact forall_congr' fun object => by tauto

/-! ### Registering -/

/-- `j` is what the objects of a batch make of `i` when each is registered. -/
structure Registered (i : Index) (batch : List Object) (j : Index) : Prop where
  keeps : ∀ key, lastMatchable? key batch = none → j.get? key = i.get? key
  mirrors : ∀ key object, lastMatchable? key batch = some object →
    ∃ e, j.get? key = some e ∧ e.Mirrors object

theorem Registered.nil (i : Index) : Registered i [] i :=
  ⟨fun _ _ => rfl, by simp [lastMatchable?, lastOf?]⟩

theorem Registered.append {i j l : Index} {front back : List Object} (r : Registered i front j)
    (r' : Registered j back l) : Registered i (front ++ back) l where
  keeps key hk := by
    rw [lastMatchable?_append, Option.or_eq_none_iff] at hk
    rw [r'.keeps key hk.1, r.keeps key hk.2]
  mirrors key object hl := by
    rw [lastMatchable?_append, Option.or_eq_some_iff] at hl
    obtain hb | ⟨hb, hf⟩ := hl
    · exact r'.mirrors key object hb
    · obtain ⟨e, he, hm⟩ := r.mirrors key object hf
      exact ⟨e, (r'.keeps key hb).trans he, hm⟩

theorem registerOne_registered {i : Index} (h : i.Sound) (object : Object) :
    ∃ new j, i.registerOne object = .ok (new, j) ∧ j.Sound ∧ Registered i [object] j := by
  by_cases hv : object.entity.validIdentifiers = []
  · refine ⟨false, i, registerOne_of_nil hv, h, fun _ _ => rfl, fun key o hl => ?_⟩
    simp [lastMatchable?_singleton, hv] at hl
  · obtain ⟨j, e, hj, r, hm⟩ := registerOne_replaced h hv
    refine ⟨_, j, hj, r.toSound h fun e' he' => ?_, fun key hl => ?_, fun key o hl => ?_⟩
    · cases he'
      exact hm.sound hv
    · rw [r.get?_eq, if_neg]
      simpa [lastMatchable?_singleton, hv] using hl
    · rw [lastMatchable?_singleton] at hl
      split at hl
      · next hk =>
        cases hl
        exact ⟨e, hk.1 ▸ r.get?_self, hm⟩
      · cases hl

/-- **A batch is registered.** -/
theorem register_registered {i : Index} (h : i.Sound) (batch : List Object) :
    ∃ p, i.register batch = .ok p ∧ p.2.Sound ∧ Registered i batch p.2 := by
  refine exists_foldlM_ok (P := fun p : Nat × Index => p.2.Sound)
    (R := fun p batch p' => Registered p.2 batch p'.2) (fun p _ => .nil p.2) Registered.append ?_
    batch h
  rintro ⟨count, i⟩ object (hi : i.Sound)
  obtain ⟨new, j, hj, hs, r⟩ := registerOne_registered hi object
  exact ⟨(count + new.toNat, j), by simp only [hj]; rfl, hs, r⟩

/-! ### Refreshing -/

/-- `j` is what the objects of a batch make of `i` when each refreshes the entry of its key. -/
structure Refreshed (i : Index) (batch : List Object) (j : Index) : Prop where
  keeps : ∀ key, lastOf? key batch = none → j.get? key = i.get? key
  forgets : ∀ key, j.get? key = none ↔ i.get? key = none ∨
    ∃ object ∈ batch, object.key = key ∧ object.entity.validIdentifiers = []
  mirrors : ∀ key object e, lastOf? key batch = some object → j.get? key = some e →
    e.Mirrors object

theorem Refreshed.nil (i : Index) : Refreshed i [] i :=
  ⟨fun _ _ => rfl, by simp, by simp [lastOf?]⟩

theorem Refreshed.append {i j l : Index} {front back : List Object} (r : Refreshed i front j)
    (r' : Refreshed j back l) : Refreshed i (front ++ back) l where
  keeps key hk := by
    rw [lastOf?_append, Option.or_eq_none_iff] at hk
    rw [r'.keeps key hk.1, r.keeps key hk.2]
  forgets key := by
    rw [r'.forgets, r.forgets]
    simp only [List.mem_append, or_and_right, exists_or, or_assoc]
  mirrors key object e hl he := by
    rw [lastOf?_append, Option.or_eq_some_iff] at hl
    obtain hb | ⟨hb, hf⟩ := hl
    · exact r'.mirrors key object e hb he
    · exact r.mirrors key object e hf (r'.keeps key hb ▸ he)

/-- For a batch of one object it is enough to look at the key of the object and at the others. -/
theorem Refreshed.singleton {i j : Index} {object : Object}
    (hk : ∀ key, object.key ≠ key → j.get? key = i.get? key)
    (hn : j.get? object.key = none ↔
      i.get? object.key = none ∨ object.entity.validIdentifiers = [])
    (hm : ∀ e, j.get? object.key = some e → e.Mirrors object) : Refreshed i [object] j where
  keeps key hl := hk key (by simpa [lastOf?_singleton] using hl)
  forgets key := by
    simp only [List.mem_singleton, exists_eq_left]
    by_cases e : object.key = key
    · simpa [← e] using hn
    · simp [e, hk key e]
  mirrors key o e hl he := by
    rw [lastOf?_singleton] at hl
    split at hl
    · next ek =>
      cases hl
      exact hm e (ek ▸ he)
    · cases hl

theorem refresh_refreshed {i : Index} (h : i.Sound) (object : Object) :
    ∃ j, i.refresh object = .ok j ∧ j.Sound ∧ Refreshed i [object] j := by
  cases he : i.get? object.key with
  | none =>
      exact ⟨i, refresh_of_none he, h, .singleton (fun _ _ => rfl) (by simp [he]) (by simp [he])⟩
  | some e =>
      obtain ⟨j, o, hj, r, ho⟩ := refresh_replaced h he
      have hother : ∀ key, object.key ≠ key → j.get? key = i.get? key := fun key hk => by
        rw [r.get?_eq, if_neg hk]
      by_cases hv : object.entity.validIdentifiers = []
      · rw [if_pos hv] at ho
        subst ho
        refine ⟨j, hj, r.toSound h (by simp), .singleton hother ?_ ?_⟩
        · simp [r.get?_self, hv]
        · simp [r.get?_self]
      · rw [if_neg hv] at ho
        obtain ⟨e', rfl, hm⟩ := ho
        refine ⟨j, hj, r.toSound h fun _ h' => ?_, .singleton hother ?_ ?_⟩
        · cases h'
          exact hm.sound hv
        · simp [r.get?_self, he, hv]
        · simpa [r.get?_self] using hm

theorem refreshAll_refreshed {i : Index} (h : i.Sound) (batch : List Object) :
    ∃ j, i.refreshAll batch = .ok j ∧ j.Sound ∧ Refreshed i batch j :=
  exists_foldlM_ok (P := Sound) (fun i _ => .nil i) Refreshed.append
    (fun _ object hi => refresh_refreshed hi object) batch h

/-- **A batch is brought up to date**, or refused for the first key that is not indexed. -/
theorem update_refreshed {i : Index} (h : i.Sound) (batch : List Object) :
    (∃ key, i.firstUnknown? batch = some key ∧ i.update batch = .error (.unknownEntity key)) ∨
      i.firstUnknown? batch = none ∧ ∃ j, i.update batch = .ok j ∧ j.Sound ∧ Refreshed i batch j := by
  cases hu : i.firstUnknown? batch with
  | some key =>
      refine .inl ⟨key, rfl, ?_⟩
      simp only [update, hu]
  | none =>
      obtain ⟨j, hj, hs, r⟩ := refreshAll_refreshed h batch
      refine .inr ⟨rfl, j, ?_, hs, r⟩
      simp only [update, hu, hj]
      rfl

/-- A key keeps an entry as long as all of its objects have an identifier to match on, and the entry
mirrors the last of them. -/
theorem Refreshed.exists_mirrors {i j : Index} {batch : List Object} (r : Refreshed i batch j)
    (hb : ∀ object ∈ batch, i.contains object.key = true) {key : Key} {last : Object}
    (hl : lastOf? key batch = some last)
    (hv : ∀ object ∈ batch, object.key = key → object.entity.validIdentifiers ≠ []) :
    ∃ e, j.get? key = some e ∧ e.Mirrors last := by
  have hi : i.get? key ≠ none := by
    rw [← key_of_lastOf? hl, ← Option.isSome_iff_ne_none, ← contains_eq_isSome]
    exact hb last (mem_of_lastOf? hl)
  have hj : j.get? key ≠ none := by
    rw [ne_eq, r.forgets]
    rintro (hn | ⟨object, ho, hk, hno⟩)
    · exact hi hn
    · exact hv object ho hk hno
  obtain ⟨e, he⟩ := Option.ne_none_iff_exists'.mp hj
  exact ⟨e, he, r.mirrors key last e hl he⟩

/-! ### Forgetting -/

/-- `j` is `i` without the keys of a batch. -/
def Unregistered (i : Index) (batch : List Object) (j : Index) : Prop :=
  ∀ key, j.get? key = if lastOf? key batch = none then i.get? key else none

theorem Unregistered.append {i j l : Index} {front back : List Object}
    (u : Unregistered i front j) (u' : Unregistered j back l) :
    Unregistered i (front ++ back) l := by
  intro key
  rw [u' key, u key, lastOf?_append]
  by_cases hb : lastOf? key back = none
  · simp [hb]
  · simp [hb]

theorem Unregistered.get?_eq_none {i j : Index} {batch : List Object} (u : Unregistered i batch j)
    {object : Object} (ho : object ∈ batch) : j.get? object.key = none := by
  rw [u, if_neg fun hn => lastOf?_eq_none_iff.mp hn object ho rfl]

theorem Unregistered.get?_eq {i j : Index} {batch : List Object} (u : Unregistered i batch j)
    {key : Key} (hk : ∀ object ∈ batch, object.key ≠ key) : j.get? key = i.get? key := by
  rw [u, if_pos (lastOf?_eq_none_iff.mpr hk)]

/-- The buckets have lost the keys of the batch, and no others. -/
theorem Unregistered.lists_iff {i j : Index} {batch : List Object} (u : Unregistered i batch j)
    (hi : i.Sound) (hj : j.Sound) (id : Identifier) (key : Key) :
    j.Lists id key ↔ i.Lists id key ∧ ∀ object ∈ batch, object.key ≠ key := by
  rw [hj.lists_iff_carries, hi.lists_iff_carries]
  by_cases hk : ∀ object ∈ batch, object.key ≠ key
  · rw [and_iff_left hk, Carries, Carries, u.get?_eq hk]
  · simp only [hk, and_false, iff_false]
    rintro ⟨e, he, -⟩
    simp only [not_forall, not_not] at hk
    obtain ⟨object, ho, rfl⟩ := hk
    cases (u.get?_eq_none ho).symm.trans he

/-- **A batch is forgotten.** -/
theorem unregister_unregistered {i : Index} (h : i.Sound) (batch : List Object) :
    ∃ p, i.unregister batch = .ok p ∧ p.2.Sound ∧ Unregistered i batch p.2 := by
  refine exists_foldlM_ok (P := fun p : Nat × Index => p.2.Sound)
    (R := fun p batch p' => Unregistered p.2 batch p'.2) (fun p _ key => by simp [lastOf?])
    Unregistered.append ?_ batch h
  rintro ⟨count, i⟩ object (hi : i.Sound)
  obtain ⟨j, hj, r⟩ := unregisterKey_replaced hi object.key
  refine ⟨(count + (i.contains object.key).toNat, j), by simp only [hj]; rfl,
    r.toSound hi (by simp), fun key => ?_⟩
  rw [r.get?_eq, lastOf?_singleton]
  by_cases hk : object.key = key
  · simp [hk]
  · simp [hk]

/-! ### Merging records -/

theorem insertRecords_sound {i : Index} (h : i.Sound) (records : List Record) :
    (i.insertRecords records).2.Sound := by
  rw [insertRecords]
  generalize 0 = skipped
  induction records generalizing i skipped with
  | nil => exact h
  | cons record records ih => exact ih (insertRecord_sound h record) _

end EntityResolution.Index
