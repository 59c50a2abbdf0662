import EntityResolution.Proofs.Session.Origins

/-!
# What an answer changes

An answer changes nothing but links, and a link only of a match that had no live object and gets a
stub (`resolve_frame`).

* `Index.StandsIn`: the stub of a key is blank, has the key, and carries what the entry holds, in
  strictly increasing order.
* `backing_cases`: a match is live, a stub or detached, as its entry and the resolver have it.
* `materializeAll_owners`: the stubs are new objects, one for each match that has one, and nobody
  comes to hold or to lose an object.
* `run_retains`: as long as somebody keeps a stub, no other object of its key is handed in, and the
  key stays indexed, the entry reports the stub; later questions attach nothing to it.
-/

namespace EntityResolution

/-- The object is a blank one with the key, and carries what the entry of the key holds, in strictly
increasing order. -/
structure Index.StandsIn (i : Index) (key : Key) (object : Object) : Prop where
  blank : object.entity.isBlank = true
  key_eq : object.key = key
  increasing : object.entity.identifiers.Pairwise fun a b => compare a b = .lt
  mem_iff : ∀ id, id ∈ object.entity.identifiers ↔ i.Carries key id

theorem Entity.isBlank_blank (key : Key) (ids : List Identifier) :
    (blank key ids).isBlank = true := by
  obtain ⟨id, kind⟩ := key
  cases kind with
  | person => rfl
  | resource => rfl
  | tool => rfl

theorem Index.standsIn_blank {i : Index} (h : i.Sound) {key : Key} {e : Entry}
    (he : i.get? key = some e) {object : Object}
    (ho : object.entity = Entity.blank key e.sortedValid) : i.StandsIn key object where
  blank := by rw [ho, Entity.isBlank_blank]
  key_eq := by rw [Object.key, ho, Entity.key_blank]
  increasing := by
    rw [ho]
    exact (h.entry he).sortedValid_increasing
  mem_iff id := by
    rw [ho, Carries]
    simp only [Entity.blank, (h.entry he).mem_sortedValid, he, Option.some.injEq, exists_eq_left']

/-! ### The objects built -/

/-- The owners after objects have been built: these are numbered from the next handle on, and nobody
holds them yet. -/
structure Owners.Built (o : Owners) (objects : List Object) (o' : Owners) : Prop where
  owners_eq : o' = { o with next := o.next + objects.length }
  numbers : objects.map (fun object => object.handle.number) = List.range' o.next objects.length

theorem Owners.Built.nil (o : Owners) : o.Built [] o := ⟨rfl, rfl⟩

theorem Owners.Built.append {o o' o'' : Owners} {objects objects' : List Object}
    (h : o.Built objects o') (h' : o'.Built objects' o'') : o.Built (objects ++ objects') o'' where
  owners_eq := by rw [h'.owners_eq, h.owners_eq, List.length_append, Nat.add_assoc]
  numbers := by
    rw [List.map_append, h.numbers, h'.numbers, h.owners_eq, List.length_append,
      ← List.range'_append_1]

/-- The objects built for an answer. -/
def stubs (candidates : List Candidate) : List Object :=
  candidates.filterMap fun c => c.backing.stub?

namespace Resolver

/-- The resolver builds objects for matches that have none. -/
def Instantiates (r : Resolver) : Prop := r.instantiateMissing = true ∧ r.factory.isSome = true

theorem materialize_owners {r r' : Resolver} {owners owners' : Owners} {key : Key}
    {backing : Backing} (h : r.materialize owners key = .ok (backing, r', owners')) :
    owners.Built backing.stub?.toList owners' := by
  rw [materialize] at h
  split at h
  · cases h
  split at h
  · cases h
    exact .nil _
  · cases h
    exact ⟨rfl, rfl⟩
  · cases h
    exact .nil _

theorem materializeAll_owners {r r' : Resolver} {owners owners' : Owners}
    {ranked : List (Key × Relevance)} {candidates : List Candidate}
    (h : r.materializeAll owners ranked = .ok (candidates, r', owners')) :
    owners.Built (stubs candidates) owners' := by
  induction ranked generalizing r owners candidates with
  | nil =>
      cases h
      exact .nil _
  | cons x ranked ih =>
      obtain ⟨backing, r₁, owners₁, rest, hx, hrest, rfl⟩ := materializeAll_cons h
      have hb := (materialize_owners hx).append (ih hrest)
      rw [stubs, List.filterMap_cons]
      cases hs : backing.stub? with
      | none =>
          rw [hs] at hb
          exact hb
      | some object =>
          rw [hs] at hb
          exact hb

/-- Only a question for something is answered. -/
theorem asked_of_resolve {r : Resolver} (hp : r.poisoned = false) {owners : Owners} {limit : Nat}
    {ids : List Identifier} {answer : List Candidate × Resolver × Owners}
    (h : r.resolve owners limit ids = .ok answer) : limit ≠ 0 ∧ ids ≠ [] := by
  have hids : ids ≠ [] := by
    rintro rfl
    rw [resolve_nil hp] at h
    cases h
  refine ⟨?_, hids⟩
  rintro rfl
  rw [resolve_zero hp owners hids] at h
  cases h

theorem resolve_owners {r r' : Resolver} (hp : r.poisoned = false) {owners owners' : Owners}
    {limit : Nat} {ids : List Identifier} {candidates : List Candidate}
    (h : r.resolve owners limit ids = .ok (candidates, r', owners')) :
    owners.Built (stubs candidates) owners' := by
  obtain ⟨hl, hids⟩ := asked_of_resolve hp h
  rw [resolve_eq hp owners hl hids] at h
  split at h
  · obtain ⟨ranked, -, hm⟩ := Except.exists_of_bind_eq_ok (Except.mapError_eq_ok.mp h)
    exact materializeAll_owners hm
  · cases h
    exact .nil _

end Resolver

/-- The stub of a match is the one built for its key. -/
theorem stubOf?_of_mem {candidates : List Candidate} (hd : (candidates.map Candidate.key).Nodup)
    {c : Candidate} (hc : c ∈ candidates) {object : Object} (hb : c.backing = .stub object) :
    stubOf? candidates c.key = some object := by
  induction candidates with
  | nil => cases hc
  | cons d candidates ih =>
      obtain ⟨hn, hd⟩ := List.nodup_cons.mp hd
      rw [stubOf?_cons]
      rcases List.mem_cons.mp hc with rfl | hc
      · rw [if_pos rfl, hb]
        rfl
      · rw [if_neg fun ek => hn (List.mem_map.mpr ⟨c, hc, ek.symm⟩), Option.none_or, ih hd hc]

namespace Session

/-! ### The matches -/

/-- An answer that is given is the one that is due, and no key comes twice. -/
theorem answered_of_resolve {s : Session} (h : s.Sound) {limit : Nat} {ids : List Identifier}
    {candidates : List Candidate} {r : Resolver} {owners : Owners}
    (hr : s.resolver.resolve s.owners limit ids = .ok (candidates, r, owners)) :
    r = { s.resolver with index := r.index } ∧ s.resolver.Answered s.owners candidates r.index ∧
      (candidates.map Candidate.key).Nodup := by
  obtain ⟨hl, hids⟩ := Resolver.asked_of_resolve h.unlocked hr
  obtain ⟨candidates', j, owners', hr', ha, hrank⟩ :=
    Resolver.resolve_ok h.index h.unlocked s.owners (Nat.one_le_iff_ne_zero.mpr hl) hids
  cases hr.symm.trans hr'
  obtain ⟨ranked, hranked, hbest⟩ := Index.rank_ofList_isBest h.index limit ids
  cases hrank.symm.trans hranked
  have hd := hbest.nodup
  rw [List.map_map] at hd
  exact ⟨rfl, ha, hd⟩

/-- **A match is live** if its entry had a live object, and else a stub or detached, as the resolver
has it. -/
theorem backing_cases {s : Session} (h : s.Sound) (hb : s.resolver.BuildsBlank) {j : Index}
    {candidates : List Candidate} (ha : s.resolver.Answered s.owners candidates j)
    (hd : (candidates.map Candidate.key).Nodup) {c : Candidate} (hc : c ∈ candidates) :
    match c.backing with
    | .live object => s.reported? c.key = some object
    | .stub object => s.reported? c.key = none ∧ s.resolver.Instantiates ∧
        s.resolver.index.StandsIn c.key object ∧ j.link? c.key = some object
    | .detached => s.reported? c.key = none ∧ ¬s.resolver.Instantiates := by
  obtain ⟨e, he, hbacks⟩ := ha.backed c hc
  have hreport : s.reported? c.key = e.liveObject? s.owners := by rw [reported?, he]; rfl
  rw [hreport]
  cases hback : c.backing with
  | live object =>
      rw [hback] at hbacks
      exact hbacks
  | stub object =>
      rw [hback] at hbacks
      obtain ⟨hl, hi, build, hbuild, ho⟩ := hbacks
      rw [hb build hbuild] at ho
      refine ⟨hl, ⟨hi, by rw [hbuild]; rfl⟩, Index.standsIn_blank h.index he ho, ?_⟩
      rw [ha.link, stubOf?_of_mem hd hc hback]
      rfl
  | detached =>
      rw [hback] at hbacks
      refine ⟨hbacks.1, ?_⟩
      rintro ⟨hi, hf⟩
      rcases hbacks.2 with hn | hn
      · rw [hn] at hf
        cases hf
      · rw [hi] at hn
        cases hn

/-! ### A stub that is kept -/

/-- From here on somebody keeps the object, no request hands in another object in its place, and the
key stays indexed. -/
def Retains (key : Key) (object : Object) (s : Session) : List Event → Prop
  | [] => s.owners.isAlive object.handle = true
  | event :: events =>
    s.owners.isAlive object.handle = true ∧
      (∀ other ∈ event.handedIn, s.attachedBy? key event = some other → other = object) ∧
      ∃ s', s.step event = .ok s' ∧ s'.resolver.index.contains key = true ∧
        Retains key object s' events

/-- Whether an object is retained can be found out by running the events. -/
instance decidableRetains (key : Key) (object : Object) :
    ∀ (s : Session) (events : List Event), Decidable (Retains key object s events)
  | s, [] => inferInstanceAs (Decidable (s.owners.isAlive object.handle = true))
  | s, event :: events =>
    match h : s.step event with
    | .error _ => isFalse fun ⟨_, _, _, hs, _⟩ => nomatch h.symm.trans hs
    | .ok s' =>
      have := decidableRetains key object s' events
      decidable_of_iff (s.owners.isAlive object.handle = true ∧
          (∀ other ∈ event.handedIn, s.attachedBy? key event = some other → other = object) ∧
          s'.resolver.index.contains key = true ∧ Retains key object s' events)
        (by rw [Retains, h]; simp)

/-- A question attaches nothing to an entry that reports an object. -/
theorem Effect.not_attached {s : Session} {j : Index} {limit : Nat} {ids : List Identifier}
    (hj : s.Effect j (.resolve limit ids)) {key : Key} {object : Object}
    (hr : s.reported? key = some object) : s.attachedBy? key (.resolve limit ids) = none := by
  simp only [attachedBy?, Effect] at hj ⊢
  cases hres : s.resolver.resolve s.owners limit ids with
  | error fault => rfl
  | ok answer =>
      rw [hres] at hj
      rw [Option.eq_none_iff_forall_ne_some]
      intro other ho
      obtain ⟨c, hc, rfl, hstub⟩ := exists_of_stubOf? ho
      obtain ⟨e, he, hbacks⟩ := hj.backed c hc
      rw [hstub] at hbacks
      rw [reported?, he, Option.bind_some, hbacks.1] at hr
      cases hr

/-- **One event** leaves the link to an object that is kept. -/
theorem Effect.link_retained {s s' : Session} (h : s.Sound) (hb : s.resolver.BuildsBlank)
    {event : Event} (hj : s.Effect s'.resolver.index event) {key : Key} {object : Object}
    (hr : s.reported? key = some object)
    (ho : ∀ other ∈ event.handedIn, s.attachedBy? key event = some other → other = object)
    (hc : s'.resolver.index.contains key = true) :
    s'.resolver.index.link? key = some object := by
  cases ha : s.attachedBy? key event with
  | none => exact (hj.grown h hc ha).link.trans (reported?_eq_some_iff.mp hr).1
  | some other =>
      have hlink := (hj.renewed h hb hc ha).link
      rcases hj.attached_origin hb ha with hin | ⟨hin, -⟩
      · rwa [ho other hin ha] at hlink
      · -- what is built is built for an answer
        cases event with
        | resolve limit ids => cases ha.symm.trans (hj.not_attached hr)
        | _ => cases hin

/-- **An object that is kept** stays the one that its entry reports. -/
theorem run_retains {s : Session} (h : s.Sound) (hb : s.resolver.BuildsBlank) {key : Key}
    {object : Object} (hl : s.resolver.index.link? key = some object) {events : List Event}
    (hk : Retains key object s events) :
    ∃ s', s.run events = .ok s' ∧ s'.reported? key = some object := by
  induction events generalizing s with
  | nil => exact ⟨s, rfl, reported?_eq_some_iff.mpr ⟨hl, hk⟩⟩
  | cons event events ih =>
      obtain ⟨halive, hother, s₁, h₁, hc, hk⟩ := hk
      obtain ⟨s₂, h₂, f, hj⟩ := step_ok h event
      cases h₁.symm.trans h₂
      have hl₁ := hj.link_retained h hb (reported?_eq_some_iff.mpr ⟨hl, halive⟩) hother hc
      obtain ⟨s', hr, hreport⟩ := ih (f.toSound h) (f.buildsBlank hb) hl₁ hk
      refine ⟨s', ?_, hreport⟩
      rw [run, List.foldlM_cons, h₁]
      exact hr

/-! ### The answer -/

/-- **An answer changes nothing but links**, and only those of matches that get a stub.

Identifiers and buckets stay as they are, and so do the owners' objects; the stubs are new, one for
each match that has one.  A match whose entry had a live object is live with this object.  Any other
is a stub if the resolver builds objects, and detached if it does not: the stub stands in for what
the entry holds, and the entry is linked to it.  For as long as somebody keeps the stub, no other
object is put in its place and its key stays indexed, the entry reports it. -/
theorem resolve_frame {s : Session} (h : s.Reachable) (hb : s.resolver.BuildsBlank) {limit : Nat}
    {ids : List Identifier} {candidates : List Candidate} {r : Resolver} {owners : Owners}
    (hr : s.resolver.resolve s.owners limit ids = .ok (candidates, r, owners)) :
    r = { s.resolver with index := r.index } ∧ s.resolver.index.Relinked r.index ∧
      s.owners.Built (stubs candidates) owners ∧ (candidates.map Candidate.key).Nodup ∧
      (∀ key, r.index.link? key ≠ s.resolver.index.link? key →
        ∃ c ∈ candidates, c.key = key ∧ ∃ object, c.backing = .stub object) ∧
      (∀ c ∈ candidates,
        match c.backing with
        | .live object => s.reported? c.key = some object
        | .stub object => s.reported? c.key = none ∧ s.resolver.Instantiates ∧
            s.resolver.index.StandsIn c.key object ∧ r.index.link? c.key = some object
        | .detached => s.reported? c.key = none ∧ ¬s.resolver.Instantiates) ∧
      ∀ c ∈ candidates, ∀ object, c.backing = .stub object →
        ∀ kept : Session, kept.resolver = r → ∀ events, Retains c.key object kept events →
          ∃ s', kept.run events = .ok s' ∧ s'.reported? c.key = some object := by
  have hs := h.sound
  obtain ⟨hres, ha, hd⟩ := answered_of_resolve hs hr
  have hmatch := fun c (hc : c ∈ candidates) => backing_cases hs hb ha hd hc
  refine ⟨hres, ha.toRelinked, Resolver.resolve_owners hs.unlocked hr, hd, fun key hne => ?_,
    hmatch, fun c hc object hback kept hkept events hk => ?_⟩
  · cases hstub : stubOf? candidates key with
    | none => exact absurd (by rw [ha.link, hstub, Option.none_or]) hne
    | some object =>
        obtain ⟨c, hc, hkey, hback⟩ := exists_of_stubOf? hstub
        exact ⟨c, hc, hkey, object, hback⟩
  · have hc' := hmatch c hc
    rw [hback] at hc'
    have hsound : kept.Sound :=
      ⟨by rw [hkept]; exact ha.toSound hs.index, by rw [hkept, hres]; exact hs.unlocked⟩
    have hblank : kept.resolver.BuildsBlank := by
      rw [hkept, hres]
      exact hb
    exact run_retains hsound hblank (by rw [hkept]; exact hc'.2.2.2) hk

/-- The desk is held by somebody, the clerk by nobody, and the resolver builds objects. -/
def stubOffice : Session :=
  after { factory := some Entity.blank, instantiateMissing := true } {} {}
    [.register [clerk, desk], .ownersBecome { next := 5, held := [desk] }]

/-- What happens while somebody keeps the stub of the clerk.  A record adds the telephone number to
his entry; the desk is registered again, gets a stub from a question, as nobody holds it, and is
forgotten. -/
def stubInUse : List Event :=
  [.insertRecord ⟨clerk.key, [deskPhone]⟩, .register [desk], .resolve 2 [sharedMail, deskPhone],
    .unregister [desk]]

/-- The desk is live, and the clerk gets a stub; when this is kept, it is what his entry reports, and
still is after other requests. -/
theorem resolve_frame_office :
    stubOffice.Reachable ∧ stubOffice.resolver.BuildsBlank ∧ ∃ candidates r owners,
      stubOffice.resolver.resolve stubOffice.owners 2 [sharedMail, deskPhone] =
          .ok (candidates, r, owners) ∧
        candidates.map Candidate.backing = [.live desk, .stub clerkStub] ∧
        r.index.link? clerk.key = some clerkStub ∧
        reported? ⟨r, { next := 6, held := [clerkStub] }, {}⟩ clerk.key = some clerkStub ∧
        Retains clerk.key clerkStub ⟨r, { next := 6, held := [clerkStub] }, {}⟩ stubInUse ∧
        ∃ s', run ⟨r, { next := 6, held := [clerkStub] }, {}⟩ stubInUse = .ok s' ∧
          s'.reported? clerk.key = some clerkStub := by
  have hreach : stubOffice.Reachable := reachable_after _ _ _ _
  have hs := hreach.sound
  have hb : stubOffice.resolver.BuildsBlank := by
    refine (run_initial _ _ _ _).2.buildsBlank ?_
    rintro build ⟨⟩
    rfl
  obtain ⟨candidates, j, owners, hres, -⟩ := Resolver.resolve_ok hs.index hs.unlocked
    stubOffice.owners (Nat.le_succ 1) (List.cons_ne_nil sharedMail [deskPhone])
  have hanswer : (stubOffice.resolver.resolve stubOffice.owners 2
      [sharedMail, deskPhone]).toOption.map (fun answer => answer.1.map Candidate.backing) =
        some [.live desk, .stub clerkStub] := by decide +kernel
  have hretains : (stubOffice.resolver.resolve stubOffice.owners 2
      [sharedMail, deskPhone]).toOption.map (fun answer => decide (Retains clerk.key clerkStub
        ⟨answer.2.1, { next := 6, held := [clerkStub] }, {}⟩ stubInUse)) = some true := by
    decide +kernel
  rw [hres, Except.toOption, Option.map_some, Option.some.injEq] at hanswer hretains
  obtain ⟨c, hc, hback⟩ : ∃ c ∈ candidates, c.backing = .stub clerkStub :=
    List.mem_map.mp (hanswer ▸ by simp)
  obtain ⟨-, -, -, -, -, hmatch, hkept⟩ := resolve_frame hreach hb hres
  have hstub := hmatch c hc
  rw [hback] at hstub
  obtain ⟨-, -, hstands, hlink⟩ := hstub
  have hkey : c.key = clerk.key := hstands.key_eq.symm
  have hkept := hkept c hc clerkStub hback ⟨_, { next := 6, held := [clerkStub] }, {}⟩ rfl
  rw [hkey] at hlink hkept
  have hin := of_decide_eq_true hretains
  obtain ⟨s', hr, hreport⟩ := hkept [] hin.1
  cases hr
  exact ⟨hreach, hb, candidates, _, owners, hres, hanswer, hlink, hreport, hin, hkept _ hin⟩

end Session

end EntityResolution
