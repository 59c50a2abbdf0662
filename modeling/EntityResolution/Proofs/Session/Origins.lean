import EntityResolution.Proofs.Session.Links

/-!
# Where live objects come from

An answer calls a match live if someone holds the object that the entry is linked to.  The link does
not tell who made that object.  Either it was handed to the resolver, to be registered or to bring
the index up to date, or the resolver built it itself as the stub of an earlier answer, and somebody
has kept it since.

* `Event.handedIn`, `built`: the objects that came into a run in either way.
* `Stems`: every link leads to one of them.  An event keeps this up (`Effect.stems`), and so does a
  run (`run_stems`).
* `run_live_origin`: what stands behind a live match.  Without stubs it is an object handed in.
* `stub_reported_live`: with them it need not be: a stub that is kept is live in the next answer,
  though nobody has ever said more of it than its identifiers.
-/

namespace EntityResolution

/-- An entry that is linked is there. -/
theorem Index.contains_of_link? {i : Index} {key : Key} {object : Object}
    (h : i.link? key = some object) : i.contains key = true := by
  obtain ⟨e, he, -⟩ := Option.bind_eq_some_iff.mp h
  rw [contains_eq_isSome, he]
  rfl

/-- The objects that an event hands to the resolver. -/
def Event.handedIn : Event → List Object
  | .register batch | .update batch => batch
  | _ => []

namespace Session

/-- The objects that the resolver builds at an event. -/
def builtBy (s : Session) : Event → List Object
  | .resolve limit ids =>
    match s.resolver.resolve s.owners limit ids with
    | .ok (candidates, _) => candidates.filterMap fun c => c.backing.stub?
    | .error _ => []
  | _ => []

/-- The objects that the resolver builds in a series of events. -/
def built (s : Session) : List Event → List Object
  | [] => []
  | event :: events =>
    s.builtBy event ++
      match s.step event with
      | .ok s' => s'.built events
      | .error _ => []

/-- The object has been built as the stub of a key. -/
def IsStubOf (s : Session) (key : Key) (object : Object) : Prop :=
  s.resolver.instantiateMissing = true ∧ ∃ ids, object.entity = Entity.blank key ids

/-- Every link leads to an object of its key, which was handed in or built as a stub. -/
def Stems (s : Session) (handed stubs : List Object) : Prop :=
  ∀ key object, s.resolver.index.link? key = some object → object.key = key ∧
    (object ∈ handed ∨ object ∈ stubs ∧ s.IsStubOf key object)

/-- What an event attaches was handed in with it or built at it. -/
theorem Effect.attached_origin {s : Session} (hb : s.resolver.BuildsBlank) {j : Index}
    {event : Event} (hj : s.Effect j event) {key : Key} {object : Object}
    (ha : s.attachedBy? key event = some object) :
    object ∈ event.handedIn ∨ object ∈ s.builtBy event ∧ s.IsStubOf key object := by
  cases event with
  | register batch => exact .inl (List.mem_of_mem_filter (Index.mem_of_lastOf? ha))
  | update batch =>
      simp only [attachedBy?] at ha
      split at ha
      · exact .inl (Index.mem_of_lastOf? ha)
      · cases ha
  | resolve limit ids =>
      simp only [attachedBy?, Effect] at ha hj
      simp only [builtBy]
      cases hr : s.resolver.resolve s.owners limit ids with
      | error fault =>
          rw [hr] at ha
          cases ha
      | ok answer =>
          rw [hr] at ha hj
          obtain ⟨c, hc, rfl, hstub⟩ := exists_of_stubOf? ha
          obtain ⟨e, -, hbacks⟩ := hj.backed c hc
          rw [hstub] at hbacks
          obtain ⟨-, hmissing, build, hbuild, hentity⟩ := hbacks
          rw [hb build hbuild] at hentity
          exact .inr ⟨List.mem_filterMap.mpr ⟨c, hc, by rw [hstub]; rfl⟩, hmissing, _, hentity⟩
  | _ => cases ha

theorem Stems.mono {s : Session} {handed stubs handed' stubs' : List Object}
    (h : s.Stems handed stubs) (hh : handed ⊆ handed') (hs : stubs ⊆ stubs') :
    s.Stems handed' stubs' :=
  fun key object hl => (h key object hl).imp_right (Or.imp (@hh object) (And.imp_left (@hs object)))

/-- **One event** links entries only to what was handed in with it or built at it. -/
theorem Effect.stems {s s' : Session} (h : s.Sound) (hb : s.resolver.BuildsBlank)
    (f : Follows s s') {event : Event} (hj : s.Effect s'.resolver.index event)
    {handed stubs : List Object} (hs : s.Stems handed stubs) :
    s'.Stems (handed ++ event.handedIn) (stubs ++ s.builtBy event) := by
  have hstub : ∀ key object, s.IsStubOf key object → s'.IsStubOf key object := by
    intro key object hstub
    rw [IsStubOf, f.resolver]
    exact hstub
  intro key object hl
  have hc := Index.contains_of_link? hl
  -- either the event has made the link, or it was there before
  cases ha : s.attachedBy? key event with
  | some attached =>
      have hr := hj.renewed h hb hc ha
      obtain rfl : attached = object := Option.some.inj (hr.link.symm.trans hl)
      refine ⟨hr.key_eq, ?_⟩
      rcases hj.attached_origin hb ha with hin | ⟨hin, hk⟩
      · exact .inl (List.mem_append_right handed hin)
      · exact .inr ⟨List.mem_append_right stubs hin, hstub key _ hk⟩
  | none =>
      rw [(hj.grown h hc ha).link] at hl
      obtain ⟨hkey, hin | ⟨hin, hk⟩⟩ := hs key object hl
      · exact ⟨hkey, .inl (List.mem_append_left _ hin)⟩
      · exact ⟨hkey, .inr ⟨List.mem_append_left _ hin, hstub key _ hk⟩⟩

/-- **A run** links entries only to what was handed in or built in the course of it. -/
theorem run_stems {s : Session} (h : s.Sound) (hb : s.resolver.BuildsBlank)
    {handed stubs : List Object} (hs : s.Stems handed stubs) (events : List Event) {s' : Session}
    (hr : s.run events = .ok s') :
    s'.Stems (handed ++ events.flatMap Event.handedIn) (stubs ++ s.built events) := by
  induction events generalizing s handed stubs with
  | nil =>
      cases hr
      simpa [built] using hs
  | cons event events ih =>
      obtain ⟨s₁, h₁, f, hj⟩ := step_ok h event
      rw [run, List.foldlM_cons, h₁] at hr
      have hs₁ := ih (f.toSound h) (f.buildsBlank hb) (hj.stems h hb f hs) hr
      rw [List.append_assoc, List.append_assoc] at hs₁
      rwa [List.flatMap_cons, built, h₁]

/-- What stands behind a live match is the object that the entry is linked to, which someone
holds. -/
theorem live_linked {s : Session} (h : s.Sound) {limit : Nat} {ids : List Identifier}
    {candidates : List Candidate} {r : Resolver} {owners : Owners}
    (hr : s.resolver.resolve s.owners limit ids = .ok (candidates, r, owners)) {c : Candidate}
    (hc : c ∈ candidates) {object : Object} (hl : c.backing = .live object) :
    s.resolver.index.link? c.key = some object ∧ s.owners.isAlive object.handle = true := by
  obtain ⟨_, -, ha⟩ : ∃ j, r = { s.resolver with index := j } ∧
      s.resolver.Answered s.owners candidates j := by
    rcases Resolver.resolve_cases h.index h.unlocked s.owners limit ids with
      ⟨_, j, _, ha, hr'⟩ | hr'
    · cases hr.symm.trans hr'
      exact ⟨j, rfl, ha⟩
    · rw [hr] at hr'
      simp at hr'
  obtain ⟨e, he, hbacks⟩ := ha.backed c hc
  rw [hl] at hbacks
  rw [← reported?_eq_some_iff, reported?, he]
  exact hbacks

/-- **Where live objects come from.**  At every point of every run, what stands behind a live match
is an object that someone holds and that has the key of the match.  It was registered, or used to
bring the index up to date, unless the resolver is to build stubs: then it may be a blank entity
that the resolver has built for the key in an earlier answer. -/
theorem run_live_origin (store : Option Store) (instantiateMissing : Bool) (owners : Owners)
    (files : FileTree) (events : List Event) :
    ∃ s, (start store instantiateMissing owners files).run events = .ok s ∧
      ∀ limit ids candidates r owners',
        s.resolver.resolve s.owners limit ids = .ok (candidates, r, owners') →
        ∀ c ∈ candidates, ∀ object, c.backing = .live object →
          s.owners.isAlive object.handle = true ∧ object.key = c.key ∧
            ((∃ event ∈ events, object ∈ event.handedIn) ∨
              instantiateMissing = true ∧
                object ∈ (start store instantiateMissing owners files).built events ∧
                ∃ held, object.entity = Entity.blank c.key held) := by
  have hb := buildsBlank_start store instantiateMissing owners files
  have hs := sound_start store instantiateMissing owners files
  obtain ⟨s, hr, f⟩ := run_ok hs events
  refine ⟨s, hr, fun limit ids candidates r owners' hres c hc object hl => ?_⟩
  obtain ⟨hlink, halive⟩ := live_linked (f.toSound hs) hres hc hl
  have hempty : (start store instantiateMissing owners files).Stems [] [] := by
    intro key object hn
    simp [start, initial, Resolver.fresh, Index.link?, Index.get?_empty] at hn
  obtain ⟨hkey, horigin⟩ := run_stems hs hb hempty events hr c.key object hlink
  refine ⟨halive, hkey, horigin.imp List.mem_flatMap.mp ?_⟩
  rintro ⟨hbuilt, hmissing, hblank⟩
  rw [f.resolver] at hmissing
  exact ⟨hmissing, hbuilt, hblank⟩

/-- What the resolver builds for the clerk when nobody holds him. -/
def clerkStub : Object := ⟨⟨5⟩, Entity.blank clerk.key [sharedMail]⟩

/-- The clerk is registered and let go, and the stub of him that an answer holds is kept. -/
def stubKept : List Event :=
  [.register [clerk], .resolve 1 [sharedMail], .ownersBecome { next := 6, held := [clerkStub] }]

/-- A stub may be reported live: to the next question the stub that has been kept is live, though
nobody has handed it in. -/
theorem stub_reported_live :
    ∃ s, (start none true { next := 5 } {}).run stubKept = .ok s ∧
      (∀ event ∈ stubKept, clerkStub ∉ event.handedIn) ∧
      ∃ candidates r owners, s.resolver.resolve s.owners 1 [sharedMail] =
          .ok (candidates, r, owners) ∧
        candidates.map Candidate.backing = [.live clerkStub] := by
  have hs := sound_start none true { next := 5 } {}
  obtain ⟨s, hr, f⟩ := run_ok hs stubKept
  obtain ⟨candidates, j, owners, hres, -⟩ := Resolver.resolve_ok (f.toSound hs).index
    (f.toSound hs).unlocked s.owners (Nat.le_refl 1) (List.cons_ne_nil sharedMail [])
  have hanswer : ((start none true { next := 5 } {}).run stubKept).toOption.bind (fun s =>
      (s.resolver.resolve s.owners 1 [sharedMail]).toOption.map fun answer =>
        answer.1.map Candidate.backing) = some [.live clerkStub] := by decide +kernel
  rw [hr, Except.toOption, Option.bind_some, hres] at hanswer
  exact ⟨s, hr, by decide, candidates, _, owners, hres, Option.some.inj hanswer⟩

end Session

end EntityResolution
