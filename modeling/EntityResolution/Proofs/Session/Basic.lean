import EntityResolution.Proofs.Index.Batch
import EntityResolution.Proofs.Resolver.Resolve

/-!
# Sessions

A `Session` is a resolver among its surroundings: the owners of entity objects and the files.  It
starts with an empty index and takes one `Event` after the other.  An event is a request to the
resolver or to its index, or a change of the surroundings at any point: owners come to hold other
objects, so that objects die, and files change.  A request that is refused leaves the session as
it was; only an index that is found corrupt ends a run.  Nobody gives up with the lock taken: after
that every request would fail.

* `step_ok`: whatever happens to a session with a sound index, the index is sound afterwards, is
  what the event makes of it (`Effect`), and nothing else of the resolver has changed.
* `run_lockstep`: no run ends, and the maps of the index are in lockstep at every point of it.
* `Reachable.sound`: the states that runs reach have sound indexes.
-/

namespace EntityResolution

/-- The resolver as it is made, with nothing in its index. -/
def Resolver.fresh (r : Resolver) : Resolver := { r with index := .empty, poisoned := false }

/-- A resolver with the owners and the files around it. -/
structure Session where
  resolver : Resolver
  owners : Owners
  files : FileTree

/-- What can happen to a session. -/
inductive Event where
  | register (batch : List Object)
  | update (batch : List Object)
  | unregister (batch : List Object)
  | unregisterKey (key : Key)
  | insertRecord (record : Record)
  | clear
  | resolve (limit : Nat) (ids : List Identifier)
  | readCache
  | start
  | writeCache
  | stop
  /-- Objects are built, kept and let go. -/
  | ownersBecome (owners : Owners)
  /-- Others change the files. -/
  | filesBecome (files : FileTree)

namespace Session

/-- A session with a fresh resolver. -/
def initial (r : Resolver) (owners : Owners) (files : FileTree) : Session :=
  ⟨r.fresh, owners, files⟩

/-- The session after a request: changed by it, or as it was if the request is refused. -/
def settle (s : Session) : Except Fault Session → Except Corruption Session
  | .ok s' => .ok s'
  | .error (.corrupt c) => .error c
  | .error _ => .ok s

/-- Changes the index with the lock taken. -/
def change (s : Session) (f : Index → Except Corruption Index) : Except Corruption Session :=
  s.settle do
    let index ← (f (← s.resolver.lock)).mapError .corrupt
    return { s with resolver := { s.resolver with index } }

/-- The session after an event; a corrupt index that the event comes upon. -/
def step (s : Session) : Event → Except Corruption Session
  | .register batch =>
    s.settle ((s.resolver.register batch).map fun p => { s with resolver := p.2 })
  | .update batch => s.settle ((s.resolver.update batch).map fun r => { s with resolver := r })
  | .unregister batch =>
    s.settle ((s.resolver.unregister batch).map fun p => { s with resolver := p.2 })
  | .unregisterKey key => s.change fun i => (i.unregisterKey key).map Prod.snd
  | .insertRecord record => s.change fun i => .ok (i.insertRecord record).2
  | .clear => s.change fun _ => .ok .empty
  | .resolve limit ids =>
    s.settle ((s.resolver.resolve s.owners limit ids).map fun p =>
      { s with resolver := p.2.1, owners := p.2.2 })
  | .readCache => .ok { s with resolver := (s.resolver.readCache s.files).2 }
  | .start => .ok { s with resolver := (s.resolver.start s.files).2 }
  | .writeCache => .ok { s with files := (s.resolver.writeCache s.files).2 }
  | .stop => .ok { s with files := (s.resolver.stop s.files).2 }
  | .ownersBecome owners => .ok { s with owners }
  | .filesBecome files => .ok { s with files }

/-- The session after a series of events. -/
def run (s : Session) (events : List Event) : Except Corruption Session := events.foldlM step s

/-- Some run of events leads to the session. -/
def Reachable (s : Session) : Prop :=
  ∃ r owners files events, (initial r owners files).run events = .ok s

/-- A session whose index is sound, and whose lock can be taken. -/
structure Sound (s : Session) : Prop where
  index : s.resolver.index.Sound
  unlocked : s.resolver.poisoned = false

/-- `s'` has a sound index, and is otherwise `s` up to the surroundings. -/
structure Follows (s s' : Session) : Prop where
  index : s'.resolver.index.Sound
  resolver : s'.resolver = { s.resolver with index := s'.resolver.index }

theorem Follows.toSound {s s' : Session} (f : Follows s s') (h : s.Sound) : s'.Sound :=
  ⟨f.index, by rw [f.resolver]; exact h.unlocked⟩

theorem Follows.trans {s s' s'' : Session} (f : Follows s s') (f' : Follows s' s'') :
    Follows s s'' :=
  ⟨f'.index, by rw [f'.resolver, f.resolver]⟩

theorem Sound.follows {s : Session} (h : s.Sound) : Follows s s := ⟨h.index, rfl⟩

theorem Sound.lock {s : Session} (h : s.Sound) : s.resolver.lock = .ok s.resolver.index := by
  simp [Resolver.lock, h.unlocked]

end Session

/-! ### What one request does -/

namespace Resolver

/-- The records that the store holds, up to the first that cannot be read. -/
def stored (r : Resolver) (files : FileTree) : List Record :=
  match r.store with
  | none => []
  | some store => (store.read files).records

theorem readCache_snd {r : Resolver} (hp : r.poisoned = false) (files : FileTree) :
    (r.readCache files).2 = { r with index := (r.index.insertRecords (r.stored files)).2 } := by
  obtain ⟨index, store, factory, instantiateMissing, poisoned⟩ := r
  cases hp
  cases store with
  | none => rfl
  | some store => rfl

theorem start_snd {r : Resolver} (hp : r.poisoned = false) (files : FileTree) :
    ∃ j, (r.start files).2 = { r with index := j } ∧
      (j = (r.index.insertRecords (r.stored files)).2 ∨ j = .empty) := by
  have hr := readCache_snd hp files
  rw [start]
  cases hc : r.readCache files with
  | mk outcome r' =>
      rw [hc] at hr
      subst hr
      cases outcome with
      | ok count => exact ⟨_, rfl, .inl rfl⟩
      -- a lock that can be taken is taken to clear the index
      | error fault => exact ⟨.empty, by simp [hp], .inr rfl⟩

/-- A question without an identifier is refused. -/
theorem resolve_nil {r : Resolver} (hp : r.poisoned = false) (owners : Owners) (limit : Nat) :
    r.resolve owners limit [] = .error .emptyQuery := by
  simp [resolve, lock, hp, bind, Except.bind, throw, throwThe, MonadExceptOf.throw]

/-- A question for no candidates is refused. -/
theorem resolve_zero {r : Resolver} (hp : r.poisoned = false) (owners : Owners)
    {ids : List Identifier} (hids : ids ≠ []) : r.resolve owners 0 ids = .error .zeroLimit := by
  simp [resolve, lock, hp, hids, bind, Except.bind, throw, throwThe, MonadExceptOf.throw]

/-- A question is answered, or refused for a reason that has nothing to do with the index. -/
theorem resolve_cases {r : Resolver} (h : r.index.Sound) (hp : r.poisoned = false)
    (owners : Owners) (limit : Nat) (ids : List Identifier) :
    (∃ candidates j owners', r.Answered owners candidates j ∧
      r.resolve owners limit ids = .ok (candidates, { r with index := j }, owners')) ∨
      r.resolve owners limit ids ∈ [.error .emptyQuery, .error .zeroLimit] := by
  by_cases hids : ids = []
  · exact .inr (by simp [hids, resolve_nil hp])
  · rcases Nat.eq_zero_or_pos limit with rfl | hl
    · exact .inr (by simp [resolve_zero hp owners hids])
    · obtain ⟨candidates, j, owners', hr, hj, -⟩ := resolve_ok h hp owners hl hids
      exact .inl ⟨candidates, j, owners', hj, hr⟩

end Resolver

namespace Session

/-- What an event makes of the index. -/
def Effect (s : Session) (j : Index) : Event → Prop
  | .register batch => s.resolver.index.Registered batch j
  | .update batch =>
    if s.resolver.index.firstUnknown? batch = none then s.resolver.index.Refreshed batch j
    else j = s.resolver.index
  | .unregister batch => s.resolver.index.Unregistered batch j
  | .unregisterKey key => s.resolver.index.Replaced key none j
  | .insertRecord record => j = (s.resolver.index.insertRecord record).2
  | .clear => j = .empty
  | .resolve limit ids =>
    match s.resolver.resolve s.owners limit ids with
    | .ok (candidates, _) => s.resolver.Answered s.owners candidates j
    | .error _ => j = s.resolver.index
  | .readCache => j = (s.resolver.index.insertRecords (s.resolver.stored s.files)).2
  | .start => j = (s.resolver.index.insertRecords (s.resolver.stored s.files)).2 ∨ j = .empty
  | .writeCache | .stop | .ownersBecome _ | .filesBecome _ => j = s.resolver.index

theorem change_ok {s : Session} (h : s.Sound) {f : Index → Except Corruption Index} {j : Index}
    (hf : f s.resolver.index = .ok j) :
    s.change f = .ok { s with resolver := { s.resolver with index := j } } := by
  rw [change, h.lock]
  simp only [bind, Except.bind, hf]
  rfl

theorem step_register {s : Session} (h : s.Sound) (batch : List Object) :
    ∃ j, s.step (.register batch) = .ok { s with resolver := { s.resolver with index := j } } ∧
      j.Sound ∧ s.resolver.index.Registered batch j := by
  obtain ⟨p, hp, hs, hr⟩ := Index.register_registered h.index batch
  refine ⟨p.2, ?_, hs, hr⟩
  simp only [step, Resolver.register, h.lock, bind, Except.bind, hp]
  rfl

/-- **One event keeps the index sound**, does not find it corrupt, and does to it what it is meant
to do. -/
theorem step_ok {s : Session} (h : s.Sound) (event : Event) :
    ∃ s', s.step event = .ok s' ∧ Follows s s' ∧ s.Effect s'.resolver.index event := by
  cases event with
  | register batch =>
      obtain ⟨j, hj, hs, hr⟩ := step_register h batch
      exact ⟨_, hj, ⟨hs, rfl⟩, hr⟩
  | update batch =>
      rcases Index.update_refreshed h.index batch with ⟨key, hn, hu⟩ | ⟨hn, j, hj, hs, hr⟩
      · refine ⟨s, ?_, h.follows, by simp [Effect, hn]⟩
        simp only [step, Resolver.update, h.lock, bind, Except.bind, hu]
        rfl
      · refine ⟨{ s with resolver := { s.resolver with index := j } }, ?_, ⟨hs, rfl⟩,
          by simpa [Effect, hn] using hr⟩
        simp only [step, Resolver.update, h.lock, bind, Except.bind, hj]
        rfl
  | unregister batch =>
      obtain ⟨p, hp, hs, hr⟩ := Index.unregister_unregistered h.index batch
      refine ⟨{ s with resolver := { s.resolver with index := p.2 } }, ?_, ⟨hs, rfl⟩, hr⟩
      simp only [step, Resolver.unregister, h.lock, bind, Except.bind, hp]
      rfl
  | unregisterKey key =>
      obtain ⟨j, hj, hr⟩ := Index.unregisterKey_replaced h.index key
      exact ⟨_, change_ok h (by rw [hj]; rfl), ⟨hr.toSound h.index (by simp), rfl⟩, hr⟩
  | insertRecord record =>
      exact ⟨_, change_ok h rfl, ⟨Index.insertRecord_sound h.index record, rfl⟩, rfl⟩
  | clear => exact ⟨_, change_ok h rfl, ⟨Index.sound_empty, rfl⟩, rfl⟩
  | resolve limit ids =>
      rcases Resolver.resolve_cases h.index h.unlocked s.owners limit ids with
        ⟨candidates, j, owners', ha, hr⟩ | hr
      · refine ⟨{ s with resolver := { s.resolver with index := j }, owners := owners' }, ?_,
          ⟨ha.toSound h.index, rfl⟩, by simpa only [Effect, hr] using ha⟩
        simp only [step, hr]
        rfl
      · simp only [List.mem_cons, List.not_mem_nil, or_false] at hr
        rcases hr with hr | hr
        · exact ⟨s, by simp only [step, hr]; rfl, h.follows, by simp only [Effect, hr]⟩
        · exact ⟨s, by simp only [step, hr]; rfl, h.follows, by simp only [Effect, hr]⟩
  | readCache =>
      refine ⟨_, rfl, ?_⟩
      rw [Resolver.readCache_snd h.unlocked]
      exact ⟨⟨Index.insertRecords_sound h.index _, rfl⟩, rfl⟩
  | start =>
      obtain ⟨j, hr, hj⟩ := Resolver.start_snd h.unlocked s.files
      refine ⟨_, rfl, ?_⟩
      rw [hr]
      refine ⟨⟨?_, rfl⟩, hj⟩
      rcases hj with rfl | rfl
      · exact Index.insertRecords_sound h.index _
      · exact Index.sound_empty
  | writeCache => exact ⟨_, rfl, ⟨h.index, rfl⟩, rfl⟩
  | stop => exact ⟨_, rfl, ⟨h.index, rfl⟩, rfl⟩
  | ownersBecome owners => exact ⟨_, rfl, ⟨h.index, rfl⟩, rfl⟩
  | filesBecome files => exact ⟨_, rfl, ⟨h.index, rfl⟩, rfl⟩

/-! ### What a run keeps -/

theorem run_ok {s : Session} (h : s.Sound) (events : List Event) :
    ∃ s', s.run events = .ok s' ∧ Follows s s' := by
  induction events generalizing s with
  | nil => exact ⟨s, rfl, h.follows⟩
  | cons event events ih =>
      obtain ⟨s₁, h₁, f₁, -⟩ := step_ok h event
      obtain ⟨s₂, h₂, f₂⟩ := ih (f₁.toSound h)
      refine ⟨s₂, ?_, f₁.trans f₂⟩
      rw [run, List.foldlM_cons, h₁]
      exact h₂

theorem sound_initial (r : Resolver) (owners : Owners) (files : FileTree) :
    (initial r owners files).Sound :=
  ⟨Index.sound_empty, rfl⟩

/-- **Reachable sessions are sound.** -/
theorem Reachable.sound {s : Session} (h : s.Reachable) : s.Sound := by
  obtain ⟨r, owners, files, events, hr⟩ := h
  obtain ⟨s', hr', f⟩ := run_ok (sound_initial r owners files) events
  cases hr.symm.trans hr'
  exact f.toSound (sound_initial r owners files)

/-- The session that a series of events leads to from an empty index. -/
def after (r : Resolver) (owners : Owners) (files : FileTree) (events : List Event) : Session :=
  ((initial r owners files).run events).toOption.getD (initial r owners files)

theorem run_initial (r : Resolver) (owners : Owners) (files : FileTree) (events : List Event) :
    (initial r owners files).run events = .ok (after r owners files events) ∧
      Follows (initial r owners files) (after r owners files events) := by
  obtain ⟨s, hr, f⟩ := run_ok (sound_initial r owners files) events
  have hs : after r owners files events = s := by rw [after, hr]; rfl
  rw [hs]
  exact ⟨hr, f⟩

theorem reachable_after (r : Resolver) (owners : Owners) (files : FileTree)
    (events : List Event) : (after r owners files events).Reachable :=
  ⟨r, owners, files, events, (run_initial r owners files events).1⟩

/-- The store of a resolver stays what it is. -/
theorem store_after (r : Resolver) (owners : Owners) (files : FileTree) (events : List Event) :
    (after r owners files events).resolver.store = r.store := by
  rw [(run_initial r owners files events).2.resolver]
  rfl

/-- **Lockstep at every point of every run.**  From an empty index, no series of events comes upon
a corrupt index; after it the two maps are in lockstep, and no ranking comes upon a listed key
without an entry. -/
theorem run_lockstep (r : Resolver) (owners : Owners) (files : FileTree) (events : List Event) :
    ∃ s, (initial r owners files).run events = .ok s ∧ s.resolver.index.Lockstep ∧
      ∀ limit ids, ∃ ranked, s.resolver.index.rank limit (.ofList ids) = .ok ranked ∧
        ∀ x ∈ ranked, ∃ e, s.resolver.index.get? x.1 = some e := by
  obtain ⟨s, hr, f⟩ := run_ok (sound_initial r owners files) events
  refine ⟨s, hr, f.index.toLockstep, fun limit ids => ?_⟩
  obtain ⟨ranked, hranked, hbest⟩ := Index.rank_ofList_isBest f.index limit ids
  refine ⟨ranked, hranked, fun x hx => Option.isSome_iff_exists.mp ?_⟩
  rw [← Index.contains_eq_isSome]
  exact (hbest.scored x hx).1

end Session

end EntityResolution
