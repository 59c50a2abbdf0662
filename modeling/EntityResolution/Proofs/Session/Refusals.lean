import EntityResolution.Proofs.Session.Changes

/-!
# Refused requests

A request to update a batch is refused if one of the batch is not tracked, and names the first such
object; a question is refused if it asks for nothing, or for no candidates.  There are no other
refusals, and none of them has changed anything (`refused_unchanged`).

A request that is refused hands back no resolver, so what it may have changed before cannot be read
off it.  `Work` is the same work done in place: every object of a batch is brought in line, and
every match is linked, in a session that keeps what has been done when a fault ends the work.  It
comes to the same as the requests do (`runFrom_update`, `runFrom_resolve`): in particular a fault
finds the session as it was.
-/

namespace EntityResolution

/-- The first unknown key is that of the first object whose key is not indexed. -/
theorem Index.firstUnknown?_eq_some_iff {i : Index} {batch : List Object} {key : Key} :
    i.firstUnknown? batch = some key ↔
      ∃ front object back, batch = front ++ object :: back ∧
        (∀ o ∈ front, i.contains o.key = true) ∧ i.contains object.key = false ∧
        object.key = key := by
  rw [firstUnknown?, List.find?_map, Option.map_eq_some_iff]
  simp only [List.find?_eq_some_iff_append, Function.comp_apply, Bool.not_eq_true', Bool.not_not]
  constructor
  · rintro ⟨object, ⟨ho, front, back, hb, hf⟩, hk⟩
    exact ⟨front, object, back, hb, hf, ho, hk⟩
  · rintro ⟨front, object, back, hb, hf, ho, hk⟩
    exact ⟨object, ⟨ho, front, back, hb, hf⟩, hk⟩

theorem Index.firstUnknown?_ne_none_iff {i : Index} {batch : List Object} :
    i.firstUnknown? batch ≠ none ↔ ∃ object ∈ batch, i.contains object.key = false := by
  simp [firstUnknown?]

namespace Resolver

variable {r : Resolver}

theorem update_eq (hp : r.poisoned = false) (batch : List Object) :
    r.update batch = (r.index.update batch).map fun index => { r with index } := by
  have hlock : r.lock = .ok r.index := by simp [lock, hp]
  simp only [update, hlock, bind, Except.bind]
  cases r.index.update batch with
  | ok index => rfl
  | error fault => rfl

/-- An update is refused if there is a first key that is not indexed. -/
theorem update_eq_error_iff (h : r.index.Sound) (hp : r.poisoned = false) {batch : List Object}
    {fault : Fault} :
    r.update batch = .error fault ↔
      ∃ key, r.index.firstUnknown? batch = some key ∧ fault = .unknownEntity key := by
  rw [update_eq hp]
  rcases Index.update_refreshed h batch with ⟨key, hn, hu⟩ | ⟨hn, j, hj, -⟩
  · simp [hn, hu, Except.map, eq_comm]
  · simp [hn, hj, Except.map]

/-- A question is refused if it asks for nothing, or for no candidates. -/
theorem resolve_eq_error_iff (h : r.index.Sound) (hp : r.poisoned = false) (owners : Owners)
    {limit : Nat} {ids : List Identifier} {fault : Fault} :
    r.resolve owners limit ids = .error fault ↔
      ids = [] ∧ fault = .emptyQuery ∨ ids ≠ [] ∧ limit = 0 ∧ fault = .zeroLimit := by
  by_cases hids : ids = []
  · subst hids
    simp [resolve_nil hp, eq_comm]
  rcases Nat.eq_zero_or_pos limit with rfl | hl
  · simp [resolve_zero hp owners hids, hids, eq_comm]
  · obtain ⟨candidates, j, owners', hr, -⟩ := resolve_ok h hp owners hl hids
    simp [hr, hids, Nat.pos_iff_ne_zero.mp hl]

end Resolver

namespace Session

/-- Work in place.  What was done before a fault stays done. -/
abbrev Work (α : Type) := ExceptT Fault (StateM Session) α

namespace Work

/-- What the work comes to, and the session after it. -/
def runFrom {α : Type} (work : Work α) (s : Session) : Except Fault α × Session :=
  (ExceptT.run work).run s

/-- Hands on a fault. -/
def ofExcept {α : Type} : Except Fault α → Work α
  | .ok a => pure a
  | .error fault => throw fault

/-- Brings the entry of an object in line with it. -/
def refresh (object : Object) : Work Unit := do
  let s ← get
  let index ← ofExcept ((s.resolver.index.refresh object).mapError .corrupt)
  set { s with resolver := { s.resolver with index } }

/-- Brings the entries of a batch in line with its objects, one after the other. -/
def update (batch : List Object) : Work Unit := do
  let s ← get
  let index ← ofExcept s.resolver.lock
  match index.firstUnknown? batch with
  | some key => throw (.unknownEntity key)
  | none => batch.forM refresh

/-- Finds what stands behind a match; its entry is linked to an object that is built. -/
def materialize (ranked : Key × Relevance) : Work Candidate := do
  let s ← get
  let (backing, resolver, owners) ←
    ofExcept ((s.resolver.materialize s.owners ranked.1).mapError .corrupt)
  set { s with resolver, owners }
  return ⟨ranked.1, ranked.2, backing⟩

/-- Answers a question, one match after the other. -/
def resolve (limit : Nat) (ids : List Identifier) : Work (List Candidate) := do
  let s ← get
  let index ← ofExcept s.resolver.lock
  if ids.isEmpty then throw .emptyQuery
  if limit = 0 then throw .zeroLimit
  let query := SmallSet.ofList ids
  if query.toList.any Identifier.isValid then
    let ranked ← ofExcept ((index.rank limit query).mapError .corrupt)
    ranked.mapM materialize
  else
    return []

/-! ### Working in place -/

section

variable {α β : Type} {s s' : Session}

theorem runFrom_bind_ok {work : Work α} {a : α} (h : work.runFrom s = (.ok a, s'))
    (next : α → Work β) : (work >>= next).runFrom s = (next a).runFrom s' := by
  have h' : (ExceptT.run work).run s = (pure (.ok a, s') : Id (Except Fault α × Session)) := h
  rw [runFrom, ExceptT.run_bind, StateT.run_bind, h', pure_bind]
  rfl

theorem runFrom_get_bind (next : Session → Work β) :
    (get >>= next).runFrom s = (next s).runFrom s := by
  have hg : (get : Work Session).runFrom s = (.ok s, s) := rfl
  exact runFrom_bind_ok hg next

theorem runFrom_ofExcept_bind (a : α) (next : α → Work β) :
    (ofExcept (.ok a) >>= next).runFrom s = (next a).runFrom s := by
  have ha : (ofExcept (.ok a) : Work α).runFrom s = (.ok a, s) := rfl
  exact runFrom_bind_ok ha next

theorem runFrom_refresh {object : Object} {j : Index}
    (h : s.resolver.index.refresh object = .ok j) :
    (refresh object).runFrom s =
      (.ok (), { s with resolver := { s.resolver with index := j } }) := by
  rw [refresh, runFrom_get_bind, h]
  rfl

/-- A batch that is brought in line in one go is brought in line object by object. -/
theorem runFrom_forM_refresh {batch : List Object} {j : Index}
    (h : s.resolver.index.refreshAll batch = .ok j) :
    (batch.forM refresh).runFrom s =
      (.ok (), { s with resolver := { s.resolver with index := j } }) := by
  induction batch generalizing s with
  | nil =>
      cases h
      rfl
  | cons object batch ih =>
      rw [Index.refreshAll, List.foldlM_cons] at h
      obtain ⟨j', hj, h⟩ := Except.exists_of_bind_eq_ok h
      rw [List.forM_eq_forM, List.forM_cons, runFrom_bind_ok (runFrom_refresh hj)]
      exact ih h

theorem runFrom_materialize {ranked : Key × Relevance} {backing : Backing} {r : Resolver}
    {owners : Owners} (h : s.resolver.materialize s.owners ranked.1 = .ok (backing, r, owners)) :
    (materialize ranked).runFrom s =
      (.ok ⟨ranked.1, ranked.2, backing⟩, { s with resolver := r, owners }) := by
  rw [materialize, runFrom_get_bind, h]
  rfl

/-- Matches that are answered for in one go are answered for match by match. -/
theorem runFrom_mapM_materialize {ranked : List (Key × Relevance)} {candidates : List Candidate}
    {r : Resolver} {owners : Owners}
    (h : s.resolver.materializeAll s.owners ranked = .ok (candidates, r, owners)) :
    (ranked.mapM materialize).runFrom s = (.ok candidates, { s with resolver := r, owners }) := by
  induction ranked generalizing s candidates r owners with
  | nil =>
      cases h
      rfl
  | cons x ranked ih =>
      obtain ⟨backing, r₁, owners₁, rest, hx, hrest, rfl⟩ := Resolver.materializeAll_cons h
      have htail := ih (s := { s with resolver := r₁, owners := owners₁ }) hrest
      rw [List.mapM_cons, runFrom_bind_ok (runFrom_materialize hx), runFrom_bind_ok htail]
      rfl

/-- **An update in place** comes to the same as one that is made in one go; a fault finds the
session as it was. -/
theorem runFrom_update (h : s.Sound) (batch : List Object) :
    (update batch).runFrom s =
      match s.resolver.update batch with
      | .ok r => (.ok (), { s with resolver := r })
      | .error fault => (.error fault, s) := by
  rw [update, runFrom_get_bind, h.lock, runFrom_ofExcept_bind, Resolver.update_eq h.unlocked,
    Index.update]
  cases s.resolver.index.firstUnknown? batch with
  | some key => rfl
  | none =>
      obtain ⟨j, hj, -⟩ := Index.refreshAll_refreshed h.index batch
      rw [hj]
      exact runFrom_forM_refresh hj

/-- **A question answered in place** comes to the same as one that is answered in one go; a fault
finds the session as it was. -/
theorem runFrom_resolve (h : s.Sound) (limit : Nat) (ids : List Identifier) :
    (resolve limit ids).runFrom s =
      match s.resolver.resolve s.owners limit ids with
      | .ok (candidates, r, owners) => (.ok candidates, { s with resolver := r, owners })
      | .error fault => (.error fault, s) := by
  rw [resolve, runFrom_get_bind, h.lock, runFrom_ofExcept_bind]
  by_cases hids : ids = []
  · rw [hids, Resolver.resolve_nil h.unlocked]
    rfl
  by_cases hl : limit = 0
  · rw [hl, Resolver.resolve_zero h.unlocked _ hids, if_neg (by simpa using hids)]
    rfl
  have he : ids.isEmpty = false := by simpa using hids
  rw [Resolver.resolve_eq h.unlocked _ hl hids]
  simp only [he, hl, if_false]
  by_cases hv : (SmallSet.ofList ids).toList.any Identifier.isValid = true
  · obtain ⟨ranked, hr, hb⟩ := Index.rank_ofList_isBest h.index limit ids
    obtain ⟨candidates, j, owners', hm, -⟩ :=
      Resolver.materializeAll_ok s.resolver s.owners hb.nodup fun x hx => (hb.scored x hx).1
    rw [if_pos hv, if_pos hv, hr, Except.bind, hm]
    exact (runFrom_ofExcept_bind _ _).trans (runFrom_mapM_materialize hm)
  · rw [if_neg hv, if_neg hv]
    rfl

end

end Work

/-- **A refused request has changed nothing.**  An update is refused exactly if an object of the
batch has a key that is not indexed, and the fault names the key of the first of them; a question is
refused exactly if it asks for nothing, whatever the limit, or for no candidates.  Done in place,
both kinds of request come to what they come to in one go: if they are refused, the session is the
one before them. -/
theorem refused_unchanged {s : Session} (h : s.Reachable) :
    (∀ batch,
      ((∃ fault, s.resolver.update batch = .error fault) ↔
        ∃ object ∈ batch, s.resolver.index.contains object.key = false) ∧
      (∀ fault, s.resolver.update batch = .error fault ↔
        ∃ front object back, batch = front ++ object :: back ∧
          (∀ o ∈ front, s.resolver.index.contains o.key = true) ∧
          s.resolver.index.contains object.key = false ∧ fault = .unknownEntity object.key) ∧
      (Work.update batch).runFrom s =
        match s.resolver.update batch with
        | .ok r => (.ok (), { s with resolver := r })
        | .error fault => (.error fault, s)) ∧
    ∀ limit ids,
      (∀ fault, s.resolver.resolve s.owners limit ids = .error fault ↔
        ids = [] ∧ fault = .emptyQuery ∨ ids ≠ [] ∧ limit = 0 ∧ fault = .zeroLimit) ∧
      (Work.resolve limit ids).runFrom s =
        match s.resolver.resolve s.owners limit ids with
        | .ok (candidates, r, owners) => (.ok candidates, { s with resolver := r, owners })
        | .error fault => (.error fault, s) := by
  have hs := h.sound
  refine ⟨fun batch => ⟨?_, fun fault => ?_, Work.runFrom_update hs batch⟩, fun limit ids =>
    ⟨fun fault => Resolver.resolve_eq_error_iff hs.index hs.unlocked s.owners,
      Work.runFrom_resolve hs limit ids⟩⟩
  · rw [← Index.firstUnknown?_ne_none_iff, Option.ne_none_iff_exists']
    simp only [Resolver.update_eq_error_iff hs.index hs.unlocked]
    constructor
    · rintro ⟨fault, key, hk, -⟩
      exact ⟨key, hk⟩
    · rintro ⟨key, hk⟩
      exact ⟨.unknownEntity key, key, hk, rfl⟩
  · simp only [Resolver.update_eq_error_iff hs.index hs.unlocked, Index.firstUnknown?_eq_some_iff]
    constructor
    · rintro ⟨key, ⟨front, object, back, hb, hf, ho, rfl⟩, hfault⟩
      exact ⟨front, object, back, hb, hf, ho, hfault⟩
    · rintro ⟨front, object, back, hb, hf, ho, hfault⟩
      exact ⟨object.key, ⟨front, object, back, hb, hf, ho, rfl⟩, hfault⟩

/-- The clerk has moved, but the porter is not tracked; and nobody is asked for. -/
theorem refused_unchanged_office :
    office.Reachable ∧
      (Work.update [movedClerk, porter, bareDesk]).runFrom office =
        (.error (.unknownEntity porter.key), office) ∧
      (Work.resolve 0 []).runFrom office = (.error .emptyQuery, office) ∧
      (Work.resolve 0 [sharedMail]).runFrom office = (.error .zeroLimit, office) := by
  have hr : office.Reachable := reachable_after _ _ _ _
  obtain ⟨hupdate, hresolve⟩ := refused_unchanged hr
  obtain ⟨-, hfault, hwork⟩ := hupdate [movedClerk, porter, bareDesk]
  have hu := (hfault (.unknownEntity porter.key)).mpr
    ⟨[movedClerk], porter, [bareDesk], rfl, by decide +kernel, by decide +kernel, rfl⟩
  obtain ⟨hfault', hwork'⟩ := hresolve 0 []
  obtain ⟨hfault'', hwork''⟩ := hresolve 0 [sharedMail]
  refine ⟨hr, ?_, ?_, ?_⟩
  · rw [hwork, hu]
  · rw [hwork', (hfault' .emptyQuery).mpr (.inl ⟨rfl, rfl⟩)]
  · rw [hwork'', (hfault'' .zeroLimit).mpr (.inr ⟨by simp, rfl, rfl⟩)]

end Session

end EntityResolution
