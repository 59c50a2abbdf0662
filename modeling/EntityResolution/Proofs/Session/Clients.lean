import EntityResolution.Proofs.Session.Basic

/-!
# Clients that share a resolver

Clients take turns at a resolver.  Each holds the lock for as long as its request takes, and a
client that is to introduce an object asks first who shares identifiers with it, and registers it only
if nobody does.  Between the two the client keeps the lock, but owners need no lock to keep objects
or to let them go.

In every state that such clients reach, no identifier is indexed for two keys (`run_unshared`).
What carries the proof is that an empty answer is complete, whatever the limit: nothing is indexed
for any identifier of the object (`free_of_findsNothing`), and nothing else can be until the client
that has got the answer lets go of the lock (`Orderly`).
-/

namespace EntityResolution

namespace Index

/-- No identifier is indexed for two keys. -/
def Unshared (i : Index) : Prop := ∀ key key' id, i.Carries key id → i.Carries key' id → key = key'

/-- None of the identifiers is indexed. -/
def Free (i : Index) (ids : List Identifier) : Prop := ∀ id ∈ ids, ∀ key, ¬i.Carries key id

theorem unshared_empty : empty.Unshared := by
  rintro key key' id ⟨e, he, -⟩
  rw [get?_empty] at he
  cases he

/-- An index that carries no more shares no more. -/
theorem Unshared.mono {i j : Index} (h : i.Unshared)
    (hc : ∀ key id, j.Carries key id → i.Carries key id) : j.Unshared :=
  fun key key' id hk hk' => h key key' id (hc key id hk) (hc key' id hk')

/-- After an object has been registered, its key carries identifiers of the object, and any other
key what it carried. -/
theorem Registered.carries_cases {i j : Index} {object : Object} (r : i.Registered [object] j)
    {key : Key} {id : Identifier} (h : j.Carries key id) :
    key = object.key ∧ id ∈ object.entity.validIdentifiers ∨ i.Carries key id := by
  obtain ⟨e, he, hid⟩ := h
  cases hl : lastMatchable? key [object] with
  | none => exact .inr ⟨e, r.keeps key hl ▸ he, hid⟩
  | some last =>
      obtain ⟨e', he', hm⟩ := r.mirrors key last hl
      cases he.symm.trans he'
      obtain rfl : last = object := List.mem_singleton.mp (List.mem_of_mem_filter (mem_of_lastOf? hl))
      exact .inl ⟨(key_of_lastOf? hl).symm, (hm.mem_iff id).mp hid⟩

/-- After an object has been registered, its key carries all its identifiers. -/
theorem Registered.carries_self {i j : Index} {object : Object} (r : i.Registered [object] j)
    {id : Identifier} (hid : id ∈ object.entity.validIdentifiers) : j.Carries object.key id := by
  obtain ⟨e, he, hm⟩ := r.mirrors object.key object (by
    rw [lastMatchable?_singleton, if_pos ⟨rfl, List.ne_nil_of_mem hid⟩])
  exact ⟨e, he, (hm.mem_iff id).mpr hid⟩

/-- **An object that shares nothing** can be registered. -/
theorem Registered.unshared {i j : Index} {object : Object} (r : i.Registered [object] j)
    (h : i.Unshared) (hf : i.Free object.entity.validIdentifiers) : j.Unshared := by
  intro key key' id hk hk'
  rcases r.carries_cases hk with ⟨rfl, hid⟩ | hold
  · rcases r.carries_cases hk' with ⟨rfl, -⟩ | hold'
    · rfl
    · exact absurd hold' (hf id hid key')
  · rcases r.carries_cases hk' with ⟨rfl, hid⟩ | hold'
    · exact absurd hold (hf id hid key)
    · exact h key key' id hold hold'

/-- What is carried after a batch has been forgotten was carried before. -/
theorem Unregistered.carries {i j : Index} {batch : List Object} (u : i.Unregistered batch j)
    {key : Key} {id : Identifier} (h : j.Carries key id) : i.Carries key id := by
  obtain ⟨e, he, hid⟩ := h
  rw [u key] at he
  split at he
  · exact ⟨e, he, hid⟩
  · cases he

/-- A bucket of an unshared index has one member. -/
theorem Unshared.bucket {i : Index} (h : i.Unshared) (hs : i.Sound) {id : Identifier}
    {b : SmallSet Key} (hb : i.candidates? id = some b) : ∃ key, b.toList = [key] := by
  obtain ⟨key, hk⟩ := SmallSet.isEmpty_eq_false_iff.mp (hs.bucket_inhabited id b hb)
  have hcarries : ∀ k ∈ b, i.Carries k id := fun k hm => (hs.lists_iff_carries id k).mp ⟨b, hb, hm⟩
  refine ⟨key, List.perm_singleton.mp ?_⟩
  refine (List.perm_ext_iff_of_nodup (SmallSet.nodup_toList (hs.bucket_wellFormed id b hb))
    (List.nodup_singleton key)).mpr fun k => ?_
  rw [List.mem_singleton]
  constructor
  · exact fun hm => h k key id (hcarries k hm) (hcarries key hk)
  · rintro rfl
    exact hk

end Index

namespace Session

/-- Nothing matches what is asked. -/
def findsNothing (s : Session) (limit : Nat) (ids : List Identifier) : Bool :=
  match s.resolver.resolve s.owners limit ids with
  | .ok ([], _) => true
  | _ => false

/-- **An empty answer is complete**: nothing is indexed for what was asked. -/
theorem free_of_findsNothing {s : Session} (h : s.Sound) {limit : Nat} {ids : List Identifier}
    (hn : s.findsNothing limit ids = true) : s.resolver.index.Free ids := by
  -- a refusal is not an empty answer
  have hids : ids ≠ [] := by
    rintro rfl
    simp [findsNothing, Resolver.resolve_nil h.unlocked] at hn
  have hl : 1 ≤ limit := by
    rw [Nat.one_le_iff_ne_zero]
    rintro rfl
    simp [findsNothing, Resolver.resolve_zero h.unlocked s.owners hids] at hn
  obtain ⟨candidates, j, owners, hr, -, hrank⟩ :=
    Resolver.resolve_ok h.index h.unlocked s.owners hl hids
  obtain rfl : candidates = [] := by
    simp only [findsNothing, hr] at hn
    split at hn
    · next he => cases he; rfl
    · cases hn
  obtain ⟨answer, ha, hbest⟩ := Index.rank_ofList_isBest h.index limit ids
  cases hrank.symm.trans ha
  -- an answer is as long as the limit, which is not zero, and the number of matches allow
  have hcard : (s.resolver.index.matching ids.toFinset).card = 0 := by
    have hlen := hbest.length_eq
    simp only [List.map_nil, List.length_nil] at hlen
    omega
  intro id hid key hc
  refine Finset.notMem_empty key (Finset.card_eq_zero.mp hcard ▸ ?_)
  exact Index.mem_matching.mpr (Index.one_le_shared_iff.mpr
    ⟨id, List.mem_toFinset.mpr hid, hc⟩)

/-- A question changes nothing that is carried. -/
theorem Effect.carries_resolve {s : Session} {j : Index} {limit : Nat} {ids : List Identifier}
    (hj : s.Effect j (.resolve limit ids)) (key : Key) (id : Identifier) :
    j.Carries key id ↔ s.resolver.index.Carries key id := by
  simp only [Effect] at hj
  split at hj
  · exact hj.toRelinked.carries key id
  · rw [hj]

end Session

/-! ### Turns -/

/-- What a client wants to do. -/
inductive Request where
  /-- To ask for the identifiers of the object, and to register it if nothing matches. -/
  | introduce (limit : Nat) (object : Object)
  | unregister (batch : List Object)
  | lookup (id : Uuid)
  | resolve (limit : Nat) (ids : List Identifier)

/-- What the client that holds the lock does next. -/
inductive Stage where
  | begin (request : Request)
  /-- It registers the object, for which nothing was found. -/
  | enlist (object : Object)

/-- A session that clients share, and the client that holds the lock. -/
structure Shared where
  session : Session
  holder : Option (Nat × Stage) := none

/-- What can happen among the clients. -/
inductive Turn where
  /-- The client takes the lock, if nobody has it. -/
  | enter (client : Nat) (request : Request)
  /-- The client goes on, if it has the lock. -/
  | proceed (client : Nat)
  /-- Owners keep objects and let them go. -/
  | ownersBecome (owners : Owners)

namespace Stage

/-- What happens to the session; nothing if something is only looked up. -/
def event? : Stage → Option Event
  | begin (.introduce limit object) => some (.resolve limit object.entity.identifiers)
  | begin (.unregister batch) => some (.unregister batch)
  | begin (.lookup _) => none
  | begin (.resolve limit ids) => some (.resolve limit ids)
  | enlist object => some (.register [object])

/-- What the client does after that, if it keeps the lock. -/
def next? (s : Session) : Stage → Option Stage
  | begin (.introduce limit object) =>
    if s.findsNothing limit object.entity.identifiers then some (enlist object) else none
  | _ => none

end Stage

namespace Shared

/-- Clients that share a fresh resolver. -/
def initial (r : Resolver) (owners : Owners) (files : FileTree) : Shared :=
  { session := Session.initial r owners files }

/-- The client that holds the lock does what is next. -/
def perform (d : Shared) (client : Nat) (stage : Stage) : Except Corruption Shared := do
  let session ← match stage.event? with
    | some event => d.session.step event
    | none => .ok d.session
  return ⟨session, (stage.next? d.session).map (client, ·)⟩

/-- A turn; a client that does not get the lock waits. -/
def step (d : Shared) : Turn → Except Corruption Shared
  | .enter client request =>
    match d.holder with
    | none => .ok { d with holder := some (client, .begin request) }
    | some _ => .ok d
  | .proceed client =>
    match d.holder with
    | none => .ok d
    | some (holder, stage) => if holder = client then d.perform client stage else .ok d
  | .ownersBecome owners => .ok { d with session := { d.session with owners } }

/-- The session after a series of turns. -/
def run (d : Shared) (turns : List Turn) : Except Corruption Shared := turns.foldlM step d

/-- The invariant: nothing is shared, and what a client is about to register will share nothing. -/
structure Orderly (d : Shared) : Prop where
  sound : d.session.Sound
  unshared : d.session.resolver.index.Unshared
  free : ∀ client object, d.holder = some (client, .enlist object) →
    d.session.resolver.index.Free object.entity.validIdentifiers

theorem orderly_initial (r : Resolver) (owners : Owners) (files : FileTree) :
    (initial r owners files).Orderly where
  sound := Session.sound_initial r owners files
  unshared := Index.unshared_empty
  free client object h := by cases h

/-- A client that lets go of the lock is about to register nothing. -/
theorem orderly_released {s : Session} (hs : s.Sound) (hu : s.resolver.index.Unshared) :
    Orderly ⟨s, none⟩ where
  sound := hs
  unshared := hu
  free _ _ hh := by cases hh

/-- A stage at which something happens to the session. -/
theorem perform_event {d : Shared} (h : d.session.Sound) (client : Nat) (stage : Stage)
    {event : Event} (he : stage.event? = some event) :
    ∃ s, d.perform client stage = .ok ⟨s, (stage.next? d.session).map (client, ·)⟩ ∧ s.Sound ∧
      d.session.Effect s.resolver.index event := by
  obtain ⟨s, hs, f, hj⟩ := Session.step_ok h event
  refine ⟨s, ?_, f.toSound h, hj⟩
  simp only [perform, he, hs]
  rfl

/-- **A stage** keeps the clients orderly.  Asking and forgetting share nothing more; registering
does not either, because of what the client has found before. -/
theorem perform_orderly {d : Shared} (h : d.Orderly) {client : Nat} {stage : Stage}
    (hd : d.holder = some (client, stage)) :
    ∃ d', d.perform client stage = .ok d' ∧ d'.Orderly := by
  cases stage with
  | enlist object =>
      obtain ⟨s, hs, hsound, hj⟩ := perform_event h.sound client (.enlist object) rfl
      exact ⟨_, hs, orderly_released hsound
        (Index.Registered.unshared hj h.unshared (h.free client object hd))⟩
  | begin request =>
      cases request with
      | introduce limit object =>
          obtain ⟨s, hs, hsound, hj⟩ :=
            perform_event h.sound client (.begin (.introduce limit object)) rfl
          refine ⟨_, hs, hsound, h.unshared.mono fun key id => (hj.carries_resolve key id).mp,
            fun client' object' hh id hid key hc => ?_⟩
          simp only [Stage.next?] at hh
          split at hh
          · next hn =>
            cases hh
            exact Session.free_of_findsNothing h.sound hn id (List.mem_of_mem_filter hid) key
              ((hj.carries_resolve key id).mp hc)
          · cases hh
      | unregister batch =>
          obtain ⟨s, hs, hsound, hj⟩ :=
            perform_event h.sound client (.begin (.unregister batch)) rfl
          exact ⟨_, hs, orderly_released hsound
            (h.unshared.mono fun key id => Index.Unregistered.carries hj)⟩
      | lookup id => exact ⟨_, rfl, orderly_released h.sound h.unshared⟩
      | resolve limit ids =>
          obtain ⟨s, hs, hsound, hj⟩ :=
            perform_event h.sound client (.begin (.resolve limit ids)) rfl
          exact ⟨_, hs, orderly_released hsound
            (h.unshared.mono fun key id => (hj.carries_resolve key id).mp)⟩

/-- **A client that found nothing** registers its object: each identifier of the object gets a
bucket with the key of the object alone. -/
theorem proceed_enlist {d : Shared} (h : d.Orderly) {client : Nat} {object : Object}
    (hd : d.holder = some (client, .enlist object)) :
    ∃ d', d.step (.proceed client) = .ok d' ∧ d'.holder = none ∧
      ∀ id ∈ object.entity.validIdentifiers, ∃ bucket,
        d'.session.resolver.index.candidates? id = some bucket ∧ bucket.toList = [object.key] := by
  obtain ⟨s, hs, hsound, hj⟩ := perform_event h.sound client (.enlist object) rfl
  have hu := Index.Registered.unshared hj h.unshared (h.free client object hd)
  refine ⟨⟨s, none⟩, ?_, rfl, fun id hid => ?_⟩
  · simp only [step, hd, if_true]
    exact hs
  · have hc := Index.Registered.carries_self hj hid
    obtain ⟨bucket, hb, hm⟩ := (hsound.index.lists_iff_carries id object.key).mpr hc
    obtain ⟨key, hk⟩ := hu.bucket hsound.index hb
    -- the only member is a key that carries the identifier, and the object's does
    obtain rfl : key = object.key := by
      rw [← SmallSet.mem_toList, hk, List.mem_singleton] at hm
      exact hm.symm
    exact ⟨bucket, hb, hk⟩

/-- **One turn** keeps the clients orderly. -/
theorem step_orderly {d : Shared} (h : d.Orderly) (turn : Turn) :
    ∃ d', d.step turn = .ok d' ∧ d'.Orderly := by
  cases turn with
  | enter client request =>
      cases hd : d.holder with
      | none =>
          refine ⟨{ d with holder := some (client, .begin request) }, by simp only [step, hd],
            h.sound, h.unshared, fun _ _ hh => ?_⟩
          cases hh
      | some holder => exact ⟨d, by simp only [step, hd], h⟩
  | proceed client =>
      cases hd : d.holder with
      | none => exact ⟨d, by simp only [step, hd], h⟩
      | some holder =>
          obtain ⟨holder, stage⟩ := holder
          by_cases hc : holder = client
          · obtain ⟨d', hp, ho⟩ := perform_orderly h (hc ▸ hd)
            exact ⟨d', by simp only [step, hd, hc, if_true, hp], ho⟩
          · exact ⟨d, by simp only [step, hd, hc, if_false], h⟩
  | ownersBecome owners =>
      exact ⟨_, rfl, ⟨h.sound.index, h.sound.unlocked⟩, h.unshared, h.free⟩

/-- **A run** keeps the clients orderly. -/
theorem run_orderly {d : Shared} (h : d.Orderly) (turns : List Turn) :
    ∃ d', d.run turns = .ok d' ∧ d'.Orderly := by
  induction turns generalizing d with
  | nil => exact ⟨d, rfl, h⟩
  | cons turn turns ih =>
      obtain ⟨d₁, h₁, ho⟩ := step_orderly h turn
      obtain ⟨d₂, h₂, ho₂⟩ := ih ho
      refine ⟨d₂, ?_, ho₂⟩
      rw [run, List.foldlM_cons, h₁]
      exact h₂

/-- **Introducing keeps entities apart.**  Whatever clients do with a resolver that starts empty, as
long as they register an object only when the question for its identifiers has been answered with
nothing, no identifier is ever indexed for two keys: every bucket has one member.  And a client that
has got this answer does register its object: the member is then the key of the object. -/
theorem run_unshared (r : Resolver) (owners : Owners) (files : FileTree) (turns : List Turn) :
    ∃ d, (initial r owners files).run turns = .ok d ∧
      (∀ key key' id, d.session.resolver.index.Carries key id →
        d.session.resolver.index.Carries key' id → key = key') ∧
      (∀ id bucket, d.session.resolver.index.candidates? id = some bucket →
        ∃ key, bucket.toList = [key]) ∧
      ∀ client object, d.holder = some (client, .enlist object) →
        ∃ d', d.step (.proceed client) = .ok d' ∧ d'.holder = none ∧
          ∀ id ∈ object.entity.validIdentifiers, ∃ bucket,
            d'.session.resolver.index.candidates? id = some bucket ∧
              bucket.toList = [object.key] := by
  obtain ⟨d, hr, h⟩ := run_orderly (orderly_initial r owners files) turns
  exact ⟨d, hr, h.unshared, fun id bucket hb => h.unshared.bucket h.sound.index hb,
    fun client object hd => proceed_enlist h hd⟩

end Shared

end EntityResolution
