import EntityResolution.Proofs.Index.Scan
import EntityResolution.Resolver

/-!
# Answers of a resolver

A resolver answers with the ranked keys of its index, and finds out what stands behind each
(`Backs`).  Doing so it may link entries to objects it has built, but it changes no identifier: the
index after the answer is the one before it, but for the links (`Index.Relinked`), and a link is new
only where the answer names the object built (`Answered`).

* `materializeAll_ok`: what stands behind ranked keys is found, in their order.
* `resolve_ok`: the answer to a question is the ranking of the index; also where no identifier
  asked for has a value, and the index is not consulted.
-/

namespace EntityResolution

namespace Index

/-- `j` is `i` with other links in its entries. -/
structure Relinked (i j : Index) : Prop where
  buckets : j.buckets = i.buckets
  identifiers : ∀ key, (j.get? key).map Entry.identifiers = (i.get? key).map Entry.identifiers

theorem Relinked.refl (i : Index) : Relinked i i := ⟨rfl, fun _ => rfl⟩

theorem Relinked.trans {i j l : Index} (h : Relinked i j) (h' : Relinked j l) : Relinked i l :=
  ⟨h'.buckets.trans h.buckets, fun key => (h'.identifiers key).trans (h.identifiers key)⟩

theorem Relinked.contains {i j : Index} (h : Relinked i j) (key : Key) :
    j.contains key = i.contains key := by
  rw [contains_eq_isSome, contains_eq_isSome, ← Option.isSome_map (f := Entry.identifiers),
    h.identifiers, Option.isSome_map]

/-- An entry of the one index has a counterpart in the other. -/
theorem Relinked.get? {i j : Index} (h : Relinked i j) {key : Key} {e : Entry}
    (he : j.get? key = some e) :
    ∃ e', i.get? key = some e' ∧ e'.identifiers = e.identifiers := by
  have hm := h.identifiers key
  rw [he, Option.map_some] at hm
  exact Option.map_eq_some_iff.mp hm.symm

theorem Relinked.symm {i j : Index} (h : Relinked i j) : Relinked j i :=
  ⟨h.buckets.symm, fun key => (h.identifiers key).symm⟩

theorem Relinked.carries {i j : Index} (h : Relinked i j) (key : Key) (id : Identifier) :
    j.Carries key id ↔ i.Carries key id := by
  constructor
  · rintro ⟨e, he, hid⟩
    obtain ⟨e', he', hids⟩ := h.get? he
    exact ⟨e', he', hids ▸ hid⟩
  · rintro ⟨e, he, hid⟩
    obtain ⟨e', he', hids⟩ := h.symm.get? he
    exact ⟨e', he', hids ▸ hid⟩

/-- Links are no matter for soundness. -/
theorem Relinked.toSound {i j : Index} (h : Relinked i j) (hs : i.Sound) : j.Sound := by
  have hentry : ∀ key e, j.get? key = some e → e.identifiers.WellFormed ∧
      e.identifiers.isEmpty = false := by
    intro key e he
    obtain ⟨e', he', hids⟩ := h.get? he
    rw [← hids]
    exact ⟨hs.entry_wellFormed key e' he', hs.entry_inhabited key e' he'⟩
  have hbucket := hs.buckets.congr h.buckets
  refine ⟨⟨fun id key => ?_, fun id b hb => (hbucket id b hb).2,
    fun key e he => (hentry key e he).2, fun key id hc => ?_⟩,
    fun key e he => (hentry key e he).1, fun id b hb => (hbucket id b hb).1⟩
  · rw [lists_congr h.buckets, h.carries, hs.lists_iff_carries]
  · exact hs.valid key id ((h.carries key id).mp hc)

theorem relinked_attach {i : Index} {key : Key} {e : Entry} (he : i.get? key = some e)
    (object : Object) : Relinked i (i.setEntry key (e.attach object)) := by
  refine ⟨rfl, fun k => ?_⟩
  rw [get?_setEntry]
  split
  · next ek => rw [← ek, he]; rfl
  · rfl

/-- The index with the entry of a key linked to the object built for it, if one is built. -/
def attachStub (i : Index) (key : Key) (e : Entry) (stub : Option Object) : Index :=
  stub.elim i fun object => i.setEntry key (e.attach object)

theorem relinked_attachStub {i : Index} {key : Key} {e : Entry} (he : i.get? key = some e)
    (stub : Option Object) : Relinked i (i.attachStub key e stub) := by
  cases stub with
  | none => exact .refl i
  | some object => exact relinked_attach he object

theorem get?_attachStub_of_ne (i : Index) {key k : Key} (hk : key ≠ k) (e : Entry)
    (stub : Option Object) : (i.attachStub key e stub).get? k = i.get? k := by
  cases stub with
  | none => rfl
  | some object => rw [attachStub, Option.elim_some, get?_setEntry, if_neg hk]

theorem link?_attachStub_self (i : Index) (key : Key) (e : Entry) (stub : Option Object) :
    (i.attachStub key e stub).link? key = stub.or (i.link? key) := by
  cases stub with
  | none => rfl
  | some object =>
      rw [attachStub, Option.elim_some, link?, get?_setEntry, if_pos rfl]
      rfl

end Index

/-- Whether the linked object is held does not depend on what else is held. -/
theorem Entry.liveObject?_congr {owners owners' : Owners} (h : owners'.isAlive = owners.isAlive)
    (e : Entry) : e.liveObject? owners' = e.liveObject? owners := by
  rw [liveObject?, liveObject?, h]

namespace Candidate

/-- A match as it is ranked. -/
def ranked (c : Candidate) : Key × Relevance := (c.key, c.relevance)

end Candidate

/-- The object built for a match. -/
def Backing.stub? : Backing → Option Object
  | .stub object => some object
  | _ => none

/-- The object built for the match with a key. -/
def stubOf? (candidates : List Candidate) (key : Key) : Option Object :=
  candidates.findSome? fun c => if c.key = key then c.backing.stub? else none

theorem stubOf?_eq_none {candidates : List Candidate} {key : Key}
    (h : key ∉ candidates.map Candidate.key) : stubOf? candidates key = none := by
  rw [stubOf?, List.findSome?_eq_none_iff]
  intro c hc
  exact if_neg fun e => h (List.mem_map.mpr ⟨c, hc, e⟩)

theorem stubOf?_cons (c : Candidate) (candidates : List Candidate) (key : Key) :
    stubOf? (c :: candidates) key =
      (if c.key = key then c.backing.stub? else none).or (stubOf? candidates key) := by
  rw [stubOf?, List.findSome?_cons]
  generalize (if c.key = key then c.backing.stub? else none) = o
  cases o with
  | none => rfl
  | some object => rfl

theorem exists_of_stubOf? {candidates : List Candidate} {key : Key} {object : Object}
    (h : stubOf? candidates key = some object) :
    ∃ c ∈ candidates, c.key = key ∧ c.backing = .stub object := by
  obtain ⟨c, hc, hs⟩ := List.exists_of_findSome?_eq_some h
  split at hs
  · next hk =>
    refine ⟨c, hc, hk, ?_⟩
    cases hb : c.backing with
    | stub o => rw [hb] at hs; cases hs; rfl
    | live o => rw [hb] at hs; cases hs
    | detached => rw [hb] at hs; cases hs
  · cases hs

namespace Resolver

/-- What stands behind a match, as it follows from the entry of the key: the object of the entry if
someone holds it, else an object built from the entry, if the resolver builds objects. -/
def Backs (r : Resolver) (owners : Owners) (key : Key) (e : Entry) : Backing → Prop
  | .live object => e.liveObject? owners = some object
  | .stub object => e.liveObject? owners = none ∧ r.instantiateMissing = true ∧
      ∃ build, r.factory = some build ∧ object.entity = build key e.sortedValid
  | .detached => e.liveObject? owners = none ∧ (r.factory = none ∨ r.instantiateMissing = false)

/-- `j` is the index of `r` after the matches have been answered for: entries are linked to the
objects built for them. -/
structure Answered (r : Resolver) (owners : Owners) (candidates : List Candidate) (j : Index) : Prop
    extends r.index.Relinked j where
  backed : ∀ c ∈ candidates, ∃ e, r.index.get? c.key = some e ∧ r.Backs owners c.key e c.backing
  link : ∀ key, j.link? key = (stubOf? candidates key).or (r.index.link? key)

/-- Nothing is asked, nothing is linked. -/
theorem Answered.nil (r : Resolver) (owners : Owners) : r.Answered owners [] r.index :=
  ⟨.refl _, by simp, fun _ => rfl⟩

theorem Backs.congr {r : Resolver} {j : Index} {owners owners' : Owners}
    (ha : owners'.isAlive = owners.isAlive) {key : Key} {e : Entry} {backing : Backing}
    (h : Backs { r with index := j } owners' key e backing) : r.Backs owners key e backing := by
  cases backing with
  | live object => exact (e.liveObject?_congr ha).symm.trans h
  | stub object => exact ⟨e.liveObject?_congr ha ▸ h.1, h.2⟩
  | detached => exact ⟨e.liveObject?_congr ha ▸ h.1, h.2⟩

/-- One more match in front, of a key that is not among the others. -/
theorem Answered.cons {r : Resolver} {owners owners' : Owners}
    (ha : owners'.isAlive = owners.isAlive) {c : Candidate} {e : Entry}
    (he : r.index.get? c.key = some e) (hb : r.Backs owners c.key e c.backing)
    {candidates : List Candidate} {j : Index} (hn : c.key ∉ candidates.map Candidate.key)
    (h : Answered { r with index := r.index.attachStub c.key e c.backing.stub? } owners'
      candidates j) : r.Answered owners (c :: candidates) j where
  toRelinked := (Index.relinked_attachStub he _).trans h.toRelinked
  backed := by
    intro d hd
    rcases List.mem_cons.mp hd with rfl | hd
    · exact ⟨e, he, hb⟩
    · obtain ⟨e', he', hb'⟩ := h.backed d hd
      have hne : c.key ≠ d.key := fun ek => hn (List.mem_map.mpr ⟨d, hd, ek.symm⟩)
      exact ⟨e', (Index.get?_attachStub_of_ne _ hne _ _).symm.trans he', hb'.congr ha⟩
  link key := by
    rw [h.link, stubOf?_cons]
    by_cases hk : c.key = key
    · subst hk
      rw [stubOf?_eq_none hn, if_pos rfl, Option.or_none, Option.none_or]
      exact Index.link?_attachStub_self _ _ _ _
    · rw [if_neg hk, Option.none_or, Index.link?, Index.get?_attachStub_of_ne _ hk]
      rfl

/-- What stands behind an indexed key is found; the entry is linked to an object built for it, and
nobody comes to hold an object. -/
theorem materialize_ok (r : Resolver) (owners : Owners) {key : Key} {e : Entry}
    (he : r.index.get? key = some e) :
    ∃ backing owners', r.materialize owners key =
        .ok (backing, { r with index := r.index.attachStub key e backing.stub? }, owners') ∧
      r.Backs owners key e backing ∧ owners'.isAlive = owners.isAlive := by
  rw [materialize, he]
  dsimp only
  split
  · next hl => exact ⟨_, _, rfl, hl, rfl⟩
  · next hl hf hi => exact ⟨_, _, rfl, ⟨hl, hi, _, hf, rfl⟩, rfl⟩
  · next hl hf =>
    refine ⟨_, _, rfl, ⟨hl, ?_⟩, rfl⟩
    cases hr : r.factory with
    | none => exact .inl rfl
    | some build => exact .inr (Bool.eq_false_iff.mpr (hf build hr))

/-- Matches are answered for one after the other. -/
theorem materializeAll_cons {r : Resolver} {owners owners' : Owners} {x : Key × Relevance}
    {ranked : List (Key × Relevance)} {candidates : List Candidate} {r' : Resolver}
    (h : r.materializeAll owners (x :: ranked) = .ok (candidates, r', owners')) :
    ∃ backing r₁ owners₁ rest, r.materialize owners x.1 = .ok (backing, r₁, owners₁) ∧
      r₁.materializeAll owners₁ ranked = .ok (rest, r', owners') ∧
      candidates = ⟨x.1, x.2, backing⟩ :: rest := by
  rw [materializeAll] at h
  obtain ⟨⟨backing, r₁, owners₁⟩, hx, h⟩ := Except.exists_of_bind_eq_ok h
  obtain ⟨⟨rest, r₂, owners₂⟩, hrest, h⟩ := Except.exists_of_bind_eq_ok h
  cases h
  exact ⟨backing, r₁, owners₁, rest, hx, hrest, rfl⟩

/-- What stands behind different indexed keys is found one after the other. -/
theorem materializeAll_ok (r : Resolver) (owners : Owners) {ranked : List (Key × Relevance)}
    (hd : (ranked.map Prod.fst).Nodup) (h : ∀ x ∈ ranked, r.index.contains x.1 = true) :
    ∃ candidates j owners',
      r.materializeAll owners ranked = .ok (candidates, { r with index := j }, owners') ∧
        r.Answered owners candidates j ∧ candidates.map Candidate.ranked = ranked := by
  induction ranked generalizing r owners with
  | nil => exact ⟨[], r.index, owners, rfl, .nil r owners, rfl⟩
  | cons x rest ih =>
      obtain ⟨hx, hd⟩ := List.nodup_cons.mp hd
      obtain ⟨e, he⟩ := Option.isSome_iff_exists.mp
        (Index.contains_eq_isSome _ x.1 ▸ h x List.mem_cons_self)
      obtain ⟨backing, owners₁, h₁, hb, ha⟩ := materialize_ok r owners he
      obtain ⟨candidates, j, owners₂, h₂, hj, hc⟩ :=
        ih { r with index := r.index.attachStub x.1 e backing.stub? } owners₁ hd fun y hy =>
          ((Index.relinked_attachStub he _).contains y.1).trans (h y (List.mem_cons_of_mem x hy))
      have hkeys : candidates.map Candidate.key = rest.map Prod.fst := by
        rw [← hc, List.map_map]
        rfl
      refine ⟨⟨x.1, x.2, backing⟩ :: candidates, j, owners₂, ?_,
        .cons ha he hb (hkeys ▸ hx) hj, ?_⟩
      · simp only [materializeAll, h₁, h₂, bind, Except.bind]
        rfl
      · rw [List.map_cons, hc]
        rfl

/-- A query without an identifier that has a value matches nothing. -/
theorem rank_of_invalid {i : Index} (h : i.Sound) (limit : Nat) {query : SmallSet Identifier}
    (hq : query.WellFormed) (hv : query.toList.any Identifier.isValid = false) :
    i.rank limit query = .ok [] := by
  have hm : i.matching query.toList.toFinset = ∅ := by
    refine Finset.eq_empty_of_forall_notMem fun key hk => ?_
    obtain ⟨id, hid, hc⟩ := Index.one_le_shared_iff.mp (Index.mem_matching.mp hk)
    have hne := List.any_eq_false.mp hv id (List.mem_toFinset.mp hid)
    exact hne (by simpa [Identifier.isValid] using h.valid key id hc)
  obtain ⟨answer, ha, hb⟩ := Index.rank_isBest h hq limit
  have hlen := hb.length_eq
  rw [hm, Finset.card_empty, Nat.min_zero] at hlen
  rw [ha, List.eq_nil_of_length_eq_zero hlen]

/-- A question that is not refused. -/
theorem resolve_eq {r : Resolver} (hp : r.poisoned = false) (owners : Owners) {limit : Nat}
    (hl : limit ≠ 0) {ids : List Identifier} (hids : ids ≠ []) :
    r.resolve owners limit ids =
      if (SmallSet.ofList ids).toList.any Identifier.isValid then
        ((r.index.rank limit (.ofList ids)).bind (r.materializeAll owners)).mapError .corrupt
      else .ok ([], r, owners) := by
  have hlock : r.lock = .ok r.index := by simp [lock, hp]
  have he : ids.isEmpty = false := by simpa using hids
  simp only [resolve, hlock, he, hl, bind, Except.bind]
  rfl

/-- **A question is answered with the ranking of the index**, and the entries are linked to what is
built for the answer. -/
theorem resolve_ok {r : Resolver} (h : r.index.Sound) (hp : r.poisoned = false) (owners : Owners)
    {limit : Nat} (hl : 1 ≤ limit) {ids : List Identifier} (hids : ids ≠ []) :
    ∃ candidates j owners',
      r.resolve owners limit ids = .ok (candidates, { r with index := j }, owners') ∧
        r.Answered owners candidates j ∧
        r.index.rank limit (.ofList ids) = .ok (candidates.map Candidate.ranked) := by
  have hw := SmallSet.wellFormed_ofList ids
  rw [resolve_eq hp owners (Nat.one_le_iff_ne_zero.mp hl) hids]
  by_cases hv : (SmallSet.ofList ids).toList.any Identifier.isValid = true
  · obtain ⟨answer, ha, hb⟩ := Index.rank_isBest h hw limit
    obtain ⟨candidates, j, owners', hm, hr, hc⟩ :=
      materializeAll_ok r owners hb.nodup fun x hx => (hb.scored x hx).1
    refine ⟨candidates, j, owners', ?_, hr, by rw [ha, hc]⟩
    rw [if_pos hv, ha, Except.bind, hm]
    rfl
  · -- the index is not consulted, and a ranking would come out empty as well
    refine ⟨[], r.index, owners, if_neg hv, .nil r owners, ?_⟩
    exact rank_of_invalid h limit hw (Bool.eq_false_iff.mpr hv)

end Resolver

end EntityResolution
