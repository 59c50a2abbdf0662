import EntityResolution.Proofs.FileTree.Directories
import EntityResolution.Proofs.Store.RoundTrip

/-!
# A file is replaced as a whole

A store writes to a neighbour of its file and moves that over the file.  So a writing that fails
leaves the file alone, and one that succeeds leaves no trace of the neighbour, whatever there was
before and wherever the codec stops.

* `write_cases`: the ways in which a writing can end.  Directories are made first (`Extended`); then
  the neighbour is touched at most (`Aborts`), or the file is replaced (`Replaces`).
* `Ready.exists_write`: what it takes to succeed.  Once a writing has succeeded, another one does as
  soon as its records can be encoded (`write_again`).
* `write_replaces`: what that means for the file, the neighbour and everything else.  The path of
  the file leads to the same after a writing that fails, if every `..` in it could be followed
  before.  One that leaves a directory that had to be made first may lead to a file only now
  (`failed_write_uncovers`).
-/

namespace EntityResolution

namespace FileTree

/-- A writing succeeds where a place is named and no directory is. -/
theorem write_of_place {t : FileTree} {r : Route} {l : Location} (content : Bytes)
    (hn : r.namesEntry = true) (hs : r.ending.isSlash = false) (hp : t.place r = .ok l)
    (hl : t.node? l ≠ some .directory) : t.write r content = .ok (t.set l (.file content)) := by
  simp only [write, entryPlace, hn, hp, hs, hl, if_true, bind, Except.bind]
  rfl

/-- A file can be moved to a place that is named and no directory. -/
theorem rename_of_place {t : FileTree} {source target : Route} {old new : Location}
    {content : Bytes} (hread : t.read source = .ok content) (hold : t.place source = .ok old)
    (hn : target.namesEntry = true) (hs : target.ending.isSlash = false)
    (hnew : t.place target = .ok new) (hl : t.node? new ≠ some .directory) :
    t.rename source target = .ok ((t.erase old).set new (.file content)) := by
  simp only [rename, entryPlace, hread, hold, hn, hs, hnew, hl, if_true, bind, Except.bind]
  rfl

end FileTree

namespace Store

/-! ### The neighbour of a file -/

theorem namesEntry_temporary (s : Store) : s.temporary.namesEntry = true := by
  rw [temporary, Route.sibling]
  split <;> rfl

theorem start_temporary (s : Store) (files : FileTree) :
    files.start s.temporary = files.start s.target := by
  rw [temporary, Route.sibling]
  split <;> rfl

/-- The way to the neighbour ends beside the file, or in it where the way to it ends in no name. -/
theorem steps_temporary (s : Store) :
    (∃ name above, s.target.steps = .into name :: above ∧
        s.temporary.steps = .into (name ++ ".tmp") :: above) ∨
      s.temporary.steps = .into ".tmp" :: s.target.steps := by
  obtain ⟨⟨absolute, legs, ending⟩, codec⟩ := s
  cases legs with
  | nil => exact .inr rfl
  | cons leg above =>
      obtain ⟨step, filler⟩ := leg
      cases step with
      | up => exact .inr rfl
      | into name => exact .inl ⟨name, above.map Leg.step, rfl, rfl⟩

/-- **The neighbour is another place** than the file. -/
theorem place_temporary_ne {s : Store} {files : FileTree} {old new : Location}
    (hold : files.place s.temporary = .ok old) (hnew : files.place s.target = .ok new) :
    new ≠ old := by
  have hwold := (FileTree.place_eq_ok_iff.mp hold).2
  have hwnew := (FileTree.place_eq_ok_iff.mp hnew).2
  rw [start_temporary] at hwold
  rcases s.steps_temporary with ⟨name, above, htarget, htemporary⟩ | htemporary
  · rw [htemporary] at hwold
    rw [htarget] at hwnew
    obtain ⟨k, hk, hs⟩ := Except.exists_of_bind_eq_ok hwold
    obtain ⟨k', hk', hs'⟩ := Except.exists_of_bind_eq_ok hwnew
    cases hk.symm.trans hk'
    rw [(FileTree.step_eq_ok hs).2, (FileTree.step_eq_ok hs').2]
    -- in the same directory, and the names differ in length
    intro he
    have hname : name = name ++ ".tmp" := by simpa [Step.move, Location.child] using he
    simpa using congrArg String.length hname
  · rw [htemporary] at hwold
    obtain ⟨k, hk, hs⟩ := Except.exists_of_bind_eq_ok hwold
    cases hk.symm.trans hwnew
    rw [(FileTree.step_eq_ok hs).2]
    simp [Step.move, Location.child]

/-! ### How a writing ends -/

/-- The file can be replaced by way of the neighbour: its directory is there, and no directory stands
at either place. -/
structure Ready (s : Store) (t : FileTree) (old new : Location) : Prop where
  parent : s.target.parent.legs = [] ∨ t.isDirectory s.target.parent = true
  namesEntry : s.target.namesEntry = true
  noSlash : s.target.ending.isSlash = false
  temporary : t.place s.temporary = .ok old
  target : t.place s.target = .ok new
  notOld : t.node? old ≠ some .directory
  notNew : t.node? new ≠ some .directory

/-- It can be replaced also where only files differ. -/
theorem Ready.congr {s : Store} {t t' : FileTree} {old new : Location} (h : s.Ready t old new)
    (hs : t.SameDirectories t') : s.Ready t' old new where
  parent := h.parent.imp_right fun hd => (hs.isDirectory _).trans hd
  namesEntry := h.namesEntry
  noSlash := h.noSlash
  temporary := (hs.place_iff _ _).mpr h.temporary
  target := (hs.place_iff _ _).mpr h.target
  notOld := mt (hs.directory old).mp h.notOld
  notNew := mt (hs.directory new).mp h.notNew

/-- `t'` is `t` after its file has been replaced by way of the neighbour. -/
structure Replaces (s : Store) (t t' : FileTree) (content : Bytes) (old new : Location) : Prop
    extends s.Ready t old new where
  here : t'.here = t.here
  node : ∀ k, t'.node? k =
    if new = k then some (.file content) else if old = k then none else t.node? k

theorem Replaces.sameDirectories {s : Store} {t t' : FileTree} {content : Bytes}
    {old new : Location} (h : s.Replaces t t' content old new) : t.SameDirectories t' where
  here := h.here
  directory k := by
    rw [h.node]
    by_cases hn : new = k
    · subst hn
      simpa using h.notNew
    · by_cases ho : old = k
      · subst ho
        simpa [hn] using h.notOld
      · simp [hn, ho]

/-- `t'` is `t` but for the neighbour, which was and is no directory. -/
def Aborts (s : Store) (t t' : FileTree) : Prop :=
  t' = t ∨ ∃ l, t.place s.temporary = .ok l ∧ t.TouchedAt t' l

theorem Aborts.sameDirectories {s : Store} {t t' : FileTree} (h : s.Aborts t t') :
    t.SameDirectories t' := by
  rcases h with rfl | ⟨l, -, ht⟩
  · exact ⟨rfl, fun _ => Iff.rfl⟩
  · exact ht.sameDirectories

theorem Aborts.removeFile {s : Store} {t t' : FileTree} (h : s.Aborts t t') :
    s.Aborts t (t'.removeFile s.temporary) := by
  rcases t'.removeFile_cases s.temporary with hr | ⟨k, hk, hr⟩
  · rwa [hr]
  · rw [h.sameDirectories.place_iff] at hk
    rcases h with rfl | ⟨l, hl, ht⟩
    · exact .inr ⟨k, hk, hr⟩
    · obtain rfl : k = l := Except.ok.inj (hk.symm.trans hl)
      exact .inr ⟨k, hk, ht.trans hr⟩

/-- What a move of the neighbour over the file does, if it succeeds. -/
theorem replaces_of_rename {s : Store} {t written t' : FileTree} {content : Bytes}
    (hparent : s.target.parent.legs = [] ∨ t.isDirectory s.target.parent = true)
    (hw : t.write s.temporary content = .ok written)
    (hr : written.rename s.temporary s.target = .ok t') :
    ∃ old new, s.Replaces t t' content old new := by
  have hread := read_temporary hw
  obtain ⟨old, -, hold, hdir, rfl⟩ := FileTree.write_eq_ok hw
  have hsame := (FileTree.touchedAt_set hdir content).sameDirectories
  obtain ⟨content', old', new, hread', hold', -, hnames, hslash, hnew, hno, rfl⟩ :=
    FileTree.rename_ok hr
  cases hread.symm.trans hread'
  rw [hsame.place_iff] at hold' hnew
  cases hold'.symm.trans hold
  have hold_ne := FileTree.ne_nil_of_node? hdir
  have hnew_ne := FileTree.ne_nil_of_node? hno
  have hready : s.Ready t old new := ⟨hparent, hnames, hslash, hold, hnew, hdir,
    fun hd => hno ((hsame.directory new).mpr hd)⟩
  refine ⟨old, new, { hready with here := rfl, node := fun k => ?_ }⟩
  rw [FileTree.node?_set _ hnew_ne, FileTree.node?_erase _ hold_ne, FileTree.node?_set _ hold_ne]
  by_cases ho : old = k
  · simp [ho]
  · simp [ho]

/-- Writing the records to the neighbour touches nothing else, whether it succeeds or not. -/
theorem aborts_of_writeTemporary {s : Store} {t left : FileTree} {records : List Record}
    {outcome : Except Fault Nat} (h : s.writeTemporary t records = (outcome, left)) :
    s.Aborts t left := by
  simp only [writeTemporary] at h
  split at h
  · cases h
    exact .inl rfl
  · next hw =>
    cases h
    obtain ⟨l, -, hl, hdir, rfl⟩ := FileTree.write_eq_ok hw
    exact .inr ⟨l, hl, FileTree.touchedAt_set hdir _⟩

/-- **How a writing ends.**  First directories are made.  Then either the neighbour is written at
most, and the writing has failed, or the file has been replaced by all the bytes of the codec. -/
theorem write_cases (s : Store) (files : FileTree) (records : List Record) :
    ∃ made, files.Extended made s.target.parent ∧
      ((∃ fault files', s.write files records = (.error fault, files') ∧ s.Aborts made files') ∨
        ∃ count files' old new, s.write files records = (.ok count, files') ∧
          (s.codec.encode records).outcome = .ok count ∧
          s.Replaces made files' (s.codec.encode records).accepted old new) := by
  have hx := files.createDirectories_extended s.target.parent
  generalize h : s.write files records = result
  obtain ⟨outcome, files'⟩ := result
  cases course_of_write h with
  | blocked hc =>
      rw [hc] at hx
      exact ⟨_, hx, .inl ⟨_, _, rfl, .inl rfl⟩⟩
  | dropped hc hw =>
      rw [hc] at hx
      exact ⟨_, hx, .inl ⟨_, _, rfl, (aborts_of_writeTemporary hw).removeFile⟩⟩
  | stranded hc hw hm =>
      rw [hc] at hx
      exact ⟨_, hx, .inl ⟨_, _, rfl, aborts_of_writeTemporary hw⟩⟩
  | done hc hw hm =>
      rw [hc] at hx
      obtain ⟨ho, hwrite⟩ := writeTemporary_ok hw
      obtain ⟨old, new, hr⟩ :=
        replaces_of_rename (FileTree.isDirectory_createDirectories hc) hwrite hm
      exact ⟨_, hx, .inr ⟨_, _, old, new, rfl, ho, hr⟩⟩

/-- **When a writing succeeds**: the file can be replaced, and the records can be encoded. -/
theorem Ready.exists_write {s : Store} {t : FileTree} {old new : Location} (h : s.Ready t old new)
    {records : List Record} {count : Nat} (ho : (s.codec.encode records).outcome = .ok count) :
    ∃ files, s.write t records = (.ok count, files) := by
  have hwrite := FileTree.write_of_place (s.codec.encode records).accepted s.namesEntry_temporary
    (by rw [temporary_ending]) h.temporary h.notOld
  have hread := read_temporary hwrite
  have hready := h.congr
    (FileTree.touchedAt_set h.notOld (s.codec.encode records).accepted).sameDirectories
  have hrename := FileTree.rename_of_place hread hready.temporary h.namesEntry h.noSlash
    hready.target hready.notNew
  exact ⟨(s.write t records).2, by
    simp only [write, FileTree.createDirectories_of_isDirectory h.parent, writeTemporary, hwrite, ho,
      hrename]⟩

/-- **After a writing that succeeded** another one does, as soon as its records can be encoded. -/
theorem write_again {s : Store} {files files' : FileTree} {records records' : List Record}
    {count count' : Nat} (h : s.write files records = (.ok count, files'))
    (ho : (s.codec.encode records').outcome = .ok count') :
    ∃ files'', s.write files' records' = (.ok count', files'') := by
  obtain ⟨made, -, ⟨fault, _, hwrite, -⟩ | ⟨_, _, old, new, hwrite, -, hr⟩⟩ :=
    s.write_cases files records
  · cases hwrite.symm.trans h
  · cases hwrite.symm.trans h
    exact (hr.toReady.congr hr.sameDirectories).exists_write ho

/-! ### What a writing leaves -/

theorem Aborts.found?_eq {s : Store} {t t' : FileTree} (h : s.Aborts t t') :
    t'.found? s.target = t.found? s.target := by
  refine h.sameDirectories.found?_eq fun new hnew => ?_
  rcases h with rfl | ⟨old, hold, ht⟩
  · rfl
  · exact ht.node new (place_temporary_ne hold hnew).symm

theorem Replaces.found?_temporary {s : Store} {t t' : FileTree} {content : Bytes}
    {old new : Location} (h : s.Replaces t t' content old new) : t'.found? s.temporary = none := by
  refine FileTree.found?_of_none ((h.sameDirectories.place_iff _ _).mpr h.temporary) ?_
  rw [h.node, if_neg (place_temporary_ne h.temporary h.target), if_pos rfl]

/-- Only the neighbour is touched by a writing that fails, beside the directories made. -/
theorem Aborts.changed {s : Store} {files made files' : FileTree}
    (hx : files.Extended made s.target.parent) (h : s.Aborts made files') {l : Location}
    (hl : files'.node? l ≠ files.node? l) :
    files'.place s.temporary = .ok l ∨
      files.node? l = none ∧ files'.node? l = some .directory ∧ files'.OnWay s.target.parent l := by
  rcases hx.node l with hs | ⟨hn, hd, ho⟩
  · rcases h with rfl | ⟨old, hold, ht⟩
    · exact absurd hs hl
    · obtain rfl : old = l := by_contra fun hne => hl ((ht.node l hne).trans hs)
      exact .inl ((ht.sameDirectories.place_iff _ _).mpr hold)
  · have hsame := h.sameDirectories
    exact .inr ⟨hn, (hsame.directory l).mpr hd, hsame.onWay ho⟩

/-- Only the file and its neighbour are touched by one that succeeds, beside the directories
made. -/
theorem Replaces.changed {s : Store} {files made files' : FileTree} {content : Bytes}
    {old new : Location} (hx : files.Extended made s.target.parent)
    (h : s.Replaces made files' content old new) {l : Location}
    (hl : files'.node? l ≠ files.node? l) :
    files'.place s.temporary = .ok l ∨ files'.place s.target = .ok l ∨
      files.node? l = none ∧ files'.node? l = some .directory ∧ files'.OnWay s.target.parent l := by
  have hsame := h.sameDirectories
  rcases hx.node l with hs | ⟨hn, hd, ho⟩
  · by_cases hnew : new = l
    · exact .inr (.inl ((hsame.place_iff _ _).mpr (hnew ▸ h.target)))
    by_cases hold : old = l
    · exact .inl ((hsame.place_iff _ _).mpr (hold ▸ h.temporary))
    · rw [h.node, if_neg hnew, if_neg hold] at hl
      exact absurd hs hl
  · exact .inr (.inr ⟨hn, (hsame.directory l).mpr hd, hsame.onWay ho⟩)

/-- **A file is replaced as a whole or left alone.**  A writing succeeds if the file can be replaced
and the records can be encoded.  One that succeeds leaves all the bytes of the codec in the file, and
nothing at the neighbour.  After one that fails the path leads to what it led to before, provided that
each `..` in it could be followed.  Apart from the neighbour, the file of a writing that succeeds, and
directories made above the file where nothing was, every place is what it was. -/
theorem write_replaces (path : Path) (codec : Codec) {files : FileTree} (hw : files.WellFormed)
    (records : List Record) :
    let s : Store := ⟨path.route, codec⟩
    ∃ outcome files', s.write files records = (outcome, files') ∧
      (∀ old new count, s.Ready files old new → (codec.encode records).outcome = .ok count →
        outcome = .ok count) ∧
      (∀ count, outcome = .ok count →
        (codec.encode records).outcome = .ok count ∧
          files'.read path.route = .ok (codec.encode records).accepted ∧
          files'.found? s.temporary = none) ∧
      (∀ fault, outcome = .error fault → files.climbs path.route = true →
        files'.found? path.route = files.found? path.route) ∧
      files'.here = files.here ∧
      ∀ l, files'.node? l ≠ files.node? l →
        files'.place s.temporary = .ok l ∨
          (∃ count, outcome = .ok count) ∧ files'.place path.route = .ok l ∨
          files.node? l = none ∧ files'.node? l = some .directory ∧
            files'.OnWay path.route.parent l := by
  intro s
  have hready : ∀ old new count, s.Ready files old new →
      (codec.encode records).outcome = .ok count → (s.write files records).1 = .ok count := by
    intro old new count h ho
    obtain ⟨files', hwrite⟩ := h.exists_write ho
    rw [hwrite]
  obtain ⟨made, hx, ⟨fault, files', hwrite, ha⟩ | ⟨count, files', old, new, hwrite, ho, hr⟩⟩ :=
    s.write_cases files records
  · rw [hwrite] at hready
    refine ⟨_, _, hwrite, hready, nofun, fun _ _ hc => ?_, ha.sameDirectories.here.trans hx.here,
      fun l hl => ?_⟩
    · exact ha.found?_eq.trans (hx.found?_eq hw hc)
    · exact (ha.changed hx hl).imp_right .inr
  · rw [hwrite] at hready
    refine ⟨_, _, hwrite, hready, fun count' hcount => ?_, nofun, hr.here.trans hx.here,
      fun l hl => ?_⟩
    · cases hcount
      exact ⟨ho, (write_accepted path.route_ending hwrite).2, hr.found?_temporary⟩
    · exact (hr.changed hx hl).imp_right (Or.imp_left fun hp => ⟨⟨count, rfl⟩, hp⟩)

/-- A codec that writes record lines and then refuses. -/
def refusing : Codec :=
  ⟨fun records => ⟨(RecordLines.write {} records).accepted, .error (.format (.stopped "refused"))⟩,
    RecordLines.decode⟩

/-- A tree with one file at its root. -/
def oneFile : FileTree := FileTree.set {} ["c.jsonl"] (.file [0x0A])

theorem wellFormed_oneFile : oneFile.WellFormed :=
  FileTree.wellFormed_empty.set rfl (by simp [FileTree.node?_empty])

/-- The file stays what it is when the codec refuses. -/
theorem write_replaces_refused :
    oneFile.WellFormed ∧ oneFile.climbs (Path.route ⟨"c.jsonl"⟩) = true ∧
      ∃ fault files', Store.write ⟨Path.route ⟨"c.jsonl"⟩, refusing⟩ oneFile [] =
          (.error fault, files') ∧
        files'.found? (Path.route ⟨"c.jsonl"⟩) = some (.file [0x0A]) := by
  have hc : oneFile.climbs (Path.route ⟨"c.jsonl"⟩) = true := by decide +kernel
  have hfound : oneFile.found? (Path.route ⟨"c.jsonl"⟩) = some (.file [0x0A]) := by decide +kernel
  obtain ⟨outcome, files', hwrite, -, hok, herror, -⟩ :=
    write_replaces ⟨"c.jsonl"⟩ refusing wellFormed_oneFile []
  cases outcome with
  | ok count => cases (hok count rfl).1
  | error fault =>
      exact ⟨wellFormed_oneFile, hc, fault, files', hwrite, (herror fault rfl hc).trans hfound⟩

/-- A writing that fails may uncover the file: the path leads to it only once the directory is there
that the path leaves again. -/
theorem failed_write_uncovers :
    oneFile.WellFormed ∧ oneFile.found? (Path.route ⟨"a/../c.jsonl"⟩) = none ∧
      ∃ fault files', Store.write ⟨Path.route ⟨"a/../c.jsonl"⟩, refusing⟩ oneFile [] =
          (.error fault, files') ∧
        files'.found? (Path.route ⟨"a/../c.jsonl"⟩) = some (.file [0x0A]) := by
  have hfault : (Store.write ⟨Path.route ⟨"a/../c.jsonl"⟩, refusing⟩ oneFile []).1 =
      .error (.format (.stopped "refused")) := by decide +kernel
  exact ⟨wellFormed_oneFile, by decide +kernel, _, _, Prod.ext hfault rfl, by decide +kernel⟩

end Store

end EntityResolution
