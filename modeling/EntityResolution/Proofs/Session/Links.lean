import EntityResolution.Proofs.Index.Meaning
import EntityResolution.Proofs.Session.Persistence

/-!
# What entries are linked to

An entry is linked to an object that it does not keep alive.  What the link is worth can be told
from the history of a session alone: `attachedBy?` says which object an event attaches to a key,
`mergedBy` which identifiers of records it merges into the entry, and `past` adds this up for as
long as the key stays indexed.

* `Effect.renewed`, `Effect.grown`: an event that attaches an object to a key leaves an entry that
  mirrors the object; any other event keeps the link, and only adds identifiers of records.
* `run_reflects`: at every point of every run, each entry is what its past makes of it (`Reflects`).
* `run_reports`: an entry reports the object that was attached last, as long as someone holds it.
* `run_accounts`: what is indexed for a live object is what the object carries and what records have
  added since it was attached.  They may add something (`read_adds_to_live`).
-/

namespace EntityResolution

/-- What has happened to an entry since it was made. -/
structure Past where
  /-- The object attached last. -/
  object : Option Object := none
  /-- The identifiers of the records merged since. -/
  merged : List Identifier := []

/-- The identifiers that have come from the object and from the records. -/
def Past.identifiers (p : Past) : List Identifier :=
  p.object.elim [] (fun object => object.entity.validIdentifiers) ++ p.merged

/-- The objects that the resolver builds, if it builds any, are blank. -/
def Resolver.BuildsBlank (r : Resolver) : Prop :=
  ∀ build, r.factory = some build → build = Entity.blank

namespace Session

/-- The object that an event attaches to a key: of the objects registered the last one that has an
identifier to match on, of those that the index is brought in line with the last one, and of the
matches of a question the one that was built. -/
def attachedBy? (s : Session) (key : Key) : Event → Option Object
  | .register batch => Index.lastMatchable? key batch
  | .update batch =>
    if s.resolver.index.firstUnknown? batch = none then Index.lastOf? key batch else none
  | .resolve limit ids =>
    match s.resolver.resolve s.owners limit ids with
    | .ok (candidates, _) => stubOf? candidates key
    | .error _ => none
  | _ => none

/-- The identifiers that an event merges into the entry of a key. -/
def mergedBy (s : Session) (key : Key) : Event → List Identifier
  | .insertRecord record => identifiersFor key [record]
  | .readCache | .start => identifiersFor key (s.resolver.stored s.files)
  | _ => []

/-- The past of a key's entry after one more event; an entry that is gone has no past. -/
def pastAfter (s : Session) (key : Key) (event : Event) (s' : Session) (p : Past) : Past :=
  if s'.resolver.index.contains key then
    match s.attachedBy? key event with
    | some object => { object }
    | none => { p with merged := p.merged ++ s.mergedBy key event }
  else {}

/-- The past of a key's entry after a series of events. -/
def past (key : Key) (s : Session) (p : Past) : List Event → Past
  | [] => p
  | event :: events =>
    match s.step event with
    | .ok s' => past key s' (s.pastAfter key event s' p) events
    | .error _ => p

/-- What the entry of a key reports: the object it is linked to, if someone holds it. -/
def reported? (s : Session) (key : Key) : Option Object :=
  (s.resolver.index.get? key).bind fun e => e.liveObject? s.owners

theorem reported?_eq_some_iff {s : Session} {key : Key} {object : Object} :
    s.reported? key = some object ↔
      s.resolver.index.link? key = some object ∧ s.owners.isAlive object.handle = true := by
  rw [reported?, Index.link?]
  cases s.resolver.index.get? key with
  | none => simp
  | some e => simp [Entry.liveObject?, Option.filter_eq_some_iff]

end Session

/-! ### What one event does to an entry -/

namespace Index

/-- The entry of a key has been made, or made again, for an object. -/
structure Renewed (j : Index) (key : Key) (object : Object) : Prop where
  key_eq : object.key = key
  link : j.link? key = some object
  carries : ∀ id, j.Carries key id ↔ id ∈ object.entity.validIdentifiers

/-- The entry of a key has kept its link and its identifiers, and others have been added. -/
structure Grown (i j : Index) (key : Key) (ids : List Identifier) : Prop where
  link : j.link? key = i.link? key
  carries : ∀ id, j.Carries key id ↔ id ∈ ids ∨ i.Carries key id

theorem renewed_of_mirrors {j : Index} {key : Key} {e : Entry} {object : Object}
    (hk : object.key = key) (he : j.get? key = some e) (hm : e.Mirrors object) :
    j.Renewed key object where
  key_eq := hk
  link := by simp [link?, he, hm.link]
  carries id := by simp [Carries, he, hm.mem_iff]

theorem grown_of_get?_eq {i j : Index} {key : Key} (h : j.get? key = i.get? key) :
    i.Grown j key [] where
  link := by rw [link?, link?, h]
  carries id := by simp [Carries, h]

theorem grown_insertRecords {i : Index} (h : i.Sound) (records : List Record) (key : Key) :
    i.Grown (i.insertRecords records).2 key (identifiersFor key records) where
  link := link?_insertRecords h records key
  carries id := by rw [carries_insertRecords h, mem_identifiersFor]

theorem grown_insertRecord {i : Index} (h : i.Sound) (record : Record) (key : Key) :
    i.Grown (i.insertRecord record).2 key (identifiersFor key [record]) where
  link := link?_insertRecord h record key
  carries id := by
    rw [carries_insertRecord h, mem_identifiersFor]
    simp

theorem not_contains_empty (key : Key) : ¬empty.contains key = true := by
  rw [contains_eq_isSome, get?_empty]
  exact Bool.false_ne_true

end Index

namespace Entity

/-- A blank entity has the key that it is built for. -/
theorem key_blank (key : Key) (ids : List Identifier) : (blank key ids).key = key := by
  obtain ⟨id, kind⟩ := key
  cases kind with
  | person => rfl
  | resource => rfl
  | tool => rfl

/-- A blank entity built from an entry carries what the entry holds. -/
theorem mem_validIdentifiers_blank {e : Entry} (h : e.Sound) (key : Key) (id : Identifier) :
    id ∈ (blank key e.sortedValid).validIdentifiers ↔ id ∈ e.identifiers := by
  have hv : id ∈ e.identifiers → id.isValid = true := fun hid =>
    h.isValid (SmallSet.mem_toList.mpr hid)
  rw [validIdentifiers, blank, List.mem_filter, h.mem_sortedValid]
  exact and_iff_left_of_imp hv

end Entity

namespace Resolver

/-- The entry for which an object was built is linked to it, and the object carries what the entry
holds. -/
theorem Answered.renewed {r : Resolver} (h : r.index.Sound) (hb : r.BuildsBlank) {owners : Owners}
    {candidates : List Candidate} {j : Index} (ha : r.Answered owners candidates j) {key : Key}
    {object : Object} (hs : stubOf? candidates key = some object) : j.Renewed key object := by
  obtain ⟨c, hc, rfl, hstub⟩ := exists_of_stubOf? hs
  obtain ⟨e, he, hbacks⟩ := ha.backed c hc
  rw [hstub] at hbacks
  obtain ⟨-, -, build, hbuild, hentity⟩ := hbacks
  rw [hb build hbuild] at hentity
  refine ⟨by rw [Object.key, hentity, Entity.key_blank], by rw [ha.link, hs]; rfl, fun id => ?_⟩
  rw [ha.toRelinked.carries, hentity, Entity.mem_validIdentifiers_blank (h.entry he)]
  simp [Index.Carries, he]

/-- Any other entry keeps what it had. -/
theorem Answered.grown {r : Resolver} {owners : Owners} {candidates : List Candidate} {j : Index}
    (ha : r.Answered owners candidates j) {key : Key} (hs : stubOf? candidates key = none) :
    r.index.Grown j key [] where
  link := by rw [ha.link, hs, Option.none_or]
  carries id := by simp [ha.toRelinked.carries]

end Resolver

namespace Session

/-- **An object is attached** to an entry that mirrors it. -/
theorem Effect.renewed {s : Session} (h : s.Sound) (hb : s.resolver.BuildsBlank) {j : Index}
    {event : Event} (hj : s.Effect j event) {key : Key} (hc : j.contains key = true)
    {object : Object} (ha : s.attachedBy? key event = some object) : j.Renewed key object := by
  obtain ⟨e, he⟩ := Option.isSome_iff_exists.mp (Index.contains_eq_isSome j key ▸ hc)
  cases event with
  | register batch =>
      obtain ⟨e', he', hm⟩ := Index.Registered.mirrors hj key object ha
      exact Index.renewed_of_mirrors (Index.key_of_lastOf? ha) he' hm
  | update batch =>
      simp only [attachedBy?] at ha
      split at ha
      · next hu =>
        simp only [Effect, hu, if_true] at hj
        exact Index.renewed_of_mirrors (Index.key_of_lastOf? ha) he (hj.mirrors key object e ha he)
      · cases ha
  | resolve limit ids =>
      simp only [attachedBy?] at ha
      simp only [Effect] at hj
      cases hr : s.resolver.resolve s.owners limit ids with
      | ok answer =>
          rw [hr] at ha hj
          exact hj.renewed h.index hb ha
      | error fault =>
          rw [hr] at ha
          cases ha
  | _ => cases ha

/-- **No object is attached**: the entry keeps its link, and records may add to it. -/
theorem Effect.grown {s : Session} (h : s.Sound) {j : Index} {event : Event}
    (hj : s.Effect j event) {key : Key} (hc : j.contains key = true)
    (ha : s.attachedBy? key event = none) :
    s.resolver.index.Grown j key (s.mergedBy key event) := by
  cases event with
  | register batch => exact Index.grown_of_get?_eq (Index.Registered.keeps hj key ha)
  | update batch =>
      simp only [attachedBy?] at ha
      split at ha
      · next hu =>
        simp only [Effect, hu, if_true] at hj
        exact Index.grown_of_get?_eq (hj.keeps key ha)
      · next hu =>
        simp only [Effect, hu, if_false] at hj
        exact Index.grown_of_get?_eq (by rw [hj])
  | unregister batch =>
      have hk := hj key
      split at hk
      · exact Index.grown_of_get?_eq hk
      · rw [Index.contains_eq_isSome, hk] at hc
        cases hc
  | unregisterKey k =>
      have hk := Index.Replaced.get?_eq hj key
      split at hk
      · rw [Index.contains_eq_isSome, hk] at hc
        cases hc
      · exact Index.grown_of_get?_eq hk
  | insertRecord record =>
      rw [show j = _ from hj]
      exact Index.grown_insertRecord h.index record key
  | clear =>
      rw [show j = _ from hj] at hc
      exact absurd hc (Index.not_contains_empty key)
  | resolve limit ids =>
      simp only [attachedBy?] at ha
      simp only [Effect] at hj
      cases hr : s.resolver.resolve s.owners limit ids with
      | ok answer =>
          rw [hr] at ha hj
          exact hj.grown ha
      | error fault =>
          rw [hr] at hj
          exact Index.grown_of_get?_eq (by rw [show j = _ from hj])
  | readCache =>
      rw [show j = _ from hj]
      exact Index.grown_insertRecords h.index _ key
  | start =>
      obtain rfl | rfl := hj
      · exact Index.grown_insertRecords h.index _ key
      · exact absurd hc (Index.not_contains_empty key)
  | writeCache | stop | ownersBecome | filesBecome =>
      exact Index.grown_of_get?_eq (by rw [show j = _ from hj])

end Session

/-! ### The past of an entry -/

namespace Index

/-- The entry of a key is what its past makes of it. -/
structure Reflects (i : Index) (key : Key) (p : Past) : Prop where
  key_eq : ∀ object, p.object = some object → object.key = key
  link : i.link? key = p.object
  carries : ∀ id, i.Carries key id ↔ id ∈ p.identifiers

theorem reflects_of_none {i : Index} {key : Key} (h : i.get? key = none) :
    i.Reflects key {} where
  key_eq _ ho := by cases ho
  link := by simp [link?, h]
  carries id := by simp [Carries, h, Past.identifiers]

theorem Renewed.reflects {j : Index} {key : Key} {object : Object} (h : j.Renewed key object) :
    j.Reflects key { object } where
  key_eq o ho := by
    cases ho
    exact h.key_eq
  link := h.link
  carries id := by simp [h.carries, Past.identifiers]

theorem Grown.reflects {i j : Index} {key : Key} {ids : List Identifier} {p : Past}
    (g : i.Grown j key ids) (h : i.Reflects key p) :
    j.Reflects key { p with merged := p.merged ++ ids } where
  key_eq := h.key_eq
  link := g.link.trans h.link
  carries id := by
    rw [g.carries, h.carries]
    simp only [Past.identifiers, List.mem_append]
    tauto

end Index

namespace Session

/-- What a resolver builds stays what it is. -/
theorem Follows.buildsBlank {s s' : Session} (f : Follows s s') (hb : s.resolver.BuildsBlank) :
    s'.resolver.BuildsBlank := by
  rw [f.resolver]
  exact hb

/-- **One event** makes of each entry what it adds to its past. -/
theorem Effect.reflects {s s' : Session} (h : s.Sound) (hb : s.resolver.BuildsBlank)
    {event : Event} (hj : s.Effect s'.resolver.index event) {key : Key} {p : Past}
    (hp : s.resolver.index.Reflects key p) :
    s'.resolver.index.Reflects key (s.pastAfter key event s' p) := by
  rw [pastAfter]
  split
  · next hc =>
    cases ha : s.attachedBy? key event with
    | some object => exact (hj.renewed h hb hc ha).reflects
    | none => exact (hj.grown h hc ha).reflects hp
  · next hc =>
    refine Index.reflects_of_none (Option.not_isSome_iff_eq_none.mp ?_)
    rwa [← Index.contains_eq_isSome]

/-- **A run** makes of each entry what its past says. -/
theorem run_reflects {s : Session} (h : s.Sound) (hb : s.resolver.BuildsBlank) {key : Key}
    {p : Past} (hp : s.resolver.index.Reflects key p) (events : List Event) {s' : Session}
    (hr : s.run events = .ok s') : s'.resolver.index.Reflects key (past key s p events) := by
  induction events generalizing s p with
  | nil =>
      cases hr
      exact hp
  | cons event events ih =>
      obtain ⟨s₁, h₁, f, hj⟩ := step_ok h event
      rw [run, List.foldlM_cons, h₁] at hr
      have hp₁ := ih (f.toSound h) (f.buildsBlank hb) (hj.reflects h hb hp) hr
      rwa [past, h₁]

/-! ### What the past says -/

/-- What is looked up under a system identifier is what one of its keys reports. -/
theorem lookup?_ok {s : Session}
    (hk : ∀ key object, s.reported? key = some object → object.key = key) {id : Uuid}
    {object : Object} (h : s.resolver.index.lookup? s.owners id = some object) :
    object.entity.id = id ∧ s.resolver.index.contains object.key = true ∧
      s.resolver.index.find? id ≠ none := by
  obtain ⟨key, hkey, hr⟩ := List.exists_of_findSome?_eq_some h
  obtain rfl := hk key object hr
  obtain ⟨kind, -, hid⟩ := List.mem_map.mp hkey
  obtain ⟨e, he, -⟩ := Option.bind_eq_some_iff.mp hr
  have hc : s.resolver.index.contains object.key = true := by
    rw [Index.contains_eq_isSome, he]
    rfl
  refine ⟨(congrArg Key.id hid).symm, hc, fun hn => ?_⟩
  exact List.find?_eq_none.mp hn object.key hkey hc

/-- A session at its start, with a resolver that builds blank objects if it is to build any. -/
def start (store : Option Store) (instantiateMissing : Bool) (owners : Owners)
    (files : FileTree) : Session :=
  initial { store, factory := some Entity.blank, instantiateMissing } owners files

section

variable (store : Option Store) (instantiateMissing : Bool) (owners : Owners) (files : FileTree)
  (events : List Event)

theorem sound_start : (start store instantiateMissing owners files).Sound := sound_initial _ _ _

theorem buildsBlank_start :
    (start store instantiateMissing owners files).resolver.BuildsBlank := by
  rintro build ⟨⟩
  rfl

theorem start_reflects :
    ∃ s, (start store instantiateMissing owners files).run events = .ok s ∧ s.Sound ∧
      s.resolver.BuildsBlank ∧ ∀ key, s.resolver.index.Reflects key
        (past key (start store instantiateMissing owners files) {} events) := by
  have hs := sound_start store instantiateMissing owners files
  have hb := buildsBlank_start store instantiateMissing owners files
  obtain ⟨s, hr, f⟩ := run_ok hs events
  exact ⟨s, hr, f.toSound hs, f.buildsBlank hb, fun key =>
    run_reflects hs hb (Index.reflects_of_none (Index.get?_empty key)) events hr⟩

/-- **Links are fresh and own nothing.**  At every point of every run, the entry of a key reports an
object if and only if it is the one that was attached to the key last, since the entry was made, and
someone holds it.  An object is reported under its own key.  An event that makes an entry and
attaches nothing to it leaves it without a report.  And an object that is found under a system
identifier has this identifier, its key is indexed, and so a key is found as well. -/
theorem run_reports :
    ∃ s, (start store instantiateMissing owners files).run events = .ok s ∧
      (∀ key object, s.reported? key = some object ↔
        (past key (start store instantiateMissing owners files) {} events).object = some object ∧
          s.owners.isAlive object.handle = true) ∧
      (∀ key object, s.reported? key = some object → object.key = key) ∧
      (∀ key event s', s.resolver.index.contains key = false → s.attachedBy? key event = none →
        s.step event = .ok s' → s'.reported? key = none) ∧
      ∀ id object, s.resolver.index.lookup? s.owners id = some object →
        object.entity.id = id ∧ s.resolver.index.contains object.key = true ∧
          s.resolver.index.find? id ≠ none := by
  obtain ⟨s, hr, hs, hb, hp⟩ := start_reflects store instantiateMissing owners files events
  have hkey : ∀ key object, s.reported? key = some object → object.key = key := by
    intro key object ho
    exact (hp key).key_eq object ((hp key).link ▸ (reported?_eq_some_iff.mp ho).1)
  refine ⟨s, hr, fun key object => ?_, hkey, fun key event s' hc ha h' => ?_,
    fun id object hl => lookup?_ok hkey hl⟩
  · rw [reported?_eq_some_iff, (hp key).link]
  · -- the entry, if there is one now, has grown out of nothing
    obtain ⟨s₁, h₁, -, hj⟩ := step_ok hs event
    cases h'.symm.trans h₁
    have hnone : s.resolver.index.get? key = none := by
      rwa [Index.contains_eq_isSome, Option.isSome_eq_false_iff, Option.isNone_iff_eq_none] at hc
    have hlink := (hj.reflects hs hb (Index.reflects_of_none hnone)).link
    rw [pastAfter, ha] at hlink
    rw [Option.eq_none_iff_forall_ne_some]
    intro object ho
    rw [(reported?_eq_some_iff.mp ho).1] at hlink
    split at hlink
    · cases hlink
    · cases hlink

/-- **What is indexed for a live object** is what the object carries, and what has been merged from
records since the object was attached. -/
theorem run_accounts :
    ∃ s, (start store instantiateMissing owners files).run events = .ok s ∧
      ∀ key e object, s.resolver.index.get? key = some e →
        e.liveObject? s.owners = some object → ∀ id, id ∈ e.identifiers ↔
          id ∈ object.entity.validIdentifiers ∨
            id ∈ (past key (start store instantiateMissing owners files) {} events).merged := by
  obtain ⟨s, hr, -, -, hp⟩ := start_reflects store instantiateMissing owners files events
  refine ⟨s, hr, fun key e object he hl id => ?_⟩
  have hreport : s.reported? key = some object := by rw [reported?, he]; exact hl
  have ho := (hp key).link ▸ (reported?_eq_some_iff.mp hreport).1
  have hids := (hp key).carries id
  rw [Past.identifiers, ho] at hids
  simpa [Index.Carries, he] using hids

end

/-- The desk without its telephone. -/
def muteDesk : Object := ⟨⟨2⟩, ⟨⟨2⟩, .tool "Desk" none, [sharedMail]⟩⟩

/-- The record of the desk with its telephone. -/
def deskRecord : Record := ⟨desk.key, [sharedMail, deskPhone]⟩

theorem exists_deskFiles :
    ∃ files, ((Store.atPath officeFile).read files).records = [deskRecord] := by
  have hcount : ((Store.atPath officeFile).write {} [deskRecord]).1 = .ok 1 := by decide +kernel
  obtain ⟨files, hw⟩ : ∃ files,
      (Store.atPath officeFile).write {} [deskRecord] = (.ok 1, files) :=
    ⟨_, Prod.ext hcount rfl⟩
  obtain ⟨-, bytes, hbytes, -, hdecode⟩ := Store.write_ok hw
  refine ⟨files, ?_⟩
  rw [Store.read_of_file hbytes, hdecode]
  decide

/-- Reading a file may index an identifier that the live object does not carry: the desk is
registered without its telephone, and read from a file that is older than that. -/
theorem read_adds_to_live :
    ∃ (store : Store) (owners : Owners) (files : FileTree) (events : List Event) (s : Session)
      (e : Entry) (object : Object) (id : Identifier),
      (start (some store) false owners files).run events = .ok s ∧
        s.resolver.index.get? object.key = some e ∧ e.liveObject? s.owners = some object ∧
        id ∈ e.identifiers ∧ id ∉ object.entity.identifiers := by
  obtain ⟨files, hread⟩ := exists_deskFiles
  obtain ⟨j, hstep, hs, hr⟩ := step_register
    (sound_initial { store := some (.atPath officeFile), factory := some Entity.blank }
      { held := [muteDesk] } files) [muteDesk]
  obtain ⟨e₀, he₀, hm⟩ := hr.mirrors muteDesk.key muteDesk (by decide)
  obtain ⟨e, he, hid⟩ := (Index.carries_insertRecords hs [deskRecord] muteDesk.key deskPhone).mpr
    (.inl ⟨deskRecord, by decide, by decide, by decide⟩)
  -- the link is still that of the first event
  have hlink := Index.link?_insertRecords hs [deskRecord] muteDesk.key
  rw [Index.link?, Index.link?, he, he₀, Option.bind_some, Option.bind_some, hm.link] at hlink
  have hrun : (start (some (.atPath officeFile)) false { held := [muteDesk] } files).run
      [.register [muteDesk], .readCache] = .ok
        ⟨{ store := some (.atPath officeFile), factory := some Entity.blank,
           index := (j.insertRecords ((Store.atPath officeFile).read files).records).2 },
          { held := [muteDesk] }, files⟩ := by
    rw [run, List.foldlM_cons, start, hstep]
    rfl
  rw [hread] at hrun
  exact ⟨_, _, _, _, _, e, muteDesk, deskPhone, hrun, he, by rw [Entry.liveObject?, hlink]; rfl, hid,
    by decide⟩

end Session

end EntityResolution
