import EntityResolution.Proofs.Record.Reading
import EntityResolution.Proofs.Session.Links

/-!
# Loading a file

Reading merges the records of a file into the index while they come, so a line that cannot be read
leaves the index with the records of the lines before it.  Starting reads the file too, but does not
keep such an index.  So there are three outcomes, told by the file alone (`load_outcomes`).

* `readCache_missing`: without a file, nothing is merged.
* `readCache_whole`: a file whose lines can all be read is merged, and its records are counted.
* `readCache_torn`: a file with a line that cannot be read is merged up to this line.
* `start_of_ok`, `start_of_error`: starting keeps the index in the first two cases, and clears it in
  the third.
-/

namespace EntityResolution

namespace FileTree

theorem isFile_of_read {t : FileTree} {r : Route} {content : Bytes} (h : t.read r = .ok content) :
    t.isFile r = true := by
  obtain ⟨node, hlook, hnode⟩ := Except.exists_of_bind_eq_ok h
  cases node with
  | directory => cases hnode
  | file content => rw [isFile, hlook]

theorem exists_read_of_isFile {t : FileTree} {r : Route} (h : t.isFile r = true) :
    ∃ content, t.read r = .ok content := by
  rw [isFile] at h
  split at h
  · next content hlook => exact ⟨content, by rw [read, hlook]; rfl⟩
  · cases h

end FileTree

theorem Store.read_missing {path : Path} {files : FileTree}
    (h : files.isFile path.route = false) : (Store.atPath path).read files = ⟨[], .ok 0⟩ := by
  rw [Store.read, show (Store.atPath path).target = path.route from rfl]
  cases hr : files.read path.route with
  | error cause => rfl
  | ok content => cases h.symm.trans (FileTree.isFile_of_read hr)

namespace Index

/-- `j` is `i` with all the records merged into it: each key has gained the identifiers that the
records have for it, and kept its own and its link. -/
structure Merged (i : Index) (records : List Record) (j : Index) : Prop extends Lockstep j where
  grown : ∀ key, i.Grown j key (identifiersFor key records)
  contains : ∀ key, j.contains key = true ↔
    identifiersFor key records ≠ [] ∨ i.contains key = true
  lists : ∀ id key, j.Lists id key ↔ id ∈ identifiersFor key records ∨ i.Lists id key

theorem insertRecords_merged {i : Index} (h : i.Sound) (records : List Record) :
    i.Merged records (i.insertRecords records).2 := by
  have hj := insertRecords_sound h records
  have hgrown := grown_insertRecords h records
  refine ⟨hj.toLockstep, hgrown, fun key => ?_, fun id key => ?_⟩
  · rw [hj.contains_iff, h.contains_iff, Ne, ← List.isEmpty_iff, Bool.not_eq_true,
      List.isEmpty_eq_false_iff_exists_mem, ← exists_or]
    exact exists_congr (hgrown key).carries
  · rw [hj.lists_iff_carries, h.lists_iff_carries, (hgrown key).carries]

end Index

/-! ### What reading comes to -/

namespace Resolver

variable {r : Resolver} {path : Path} {files : FileTree} {bytes : Bytes} {records : List Record}

/-- Without a file, nothing is merged. -/
theorem readCache_missing (hs : r.store = some (.atPath path)) (hp : r.poisoned = false)
    (hf : files.isFile path.route = false) : r.readCache files = (.ok 0, r) := by
  rw [readCache_atPath hs hp, Store.read_missing hf]
  rfl

/-- A file whose lines can all be read. -/
theorem readCache_whole (hs : r.store = some (.atPath path)) (hp : r.poisoned = false)
    (hr : files.read path.route = .ok bytes)
    (hh : RecordLines.Holds (RecordLines.lines bytes) records) :
    r.readCache files =
      (.ok (records.countP fun x => !x.validIdentifiers.isEmpty),
        { r with index := (r.index.insertRecords records).2 }) :=
  readCache_ok hs hp ((Store.read_of_file hr).trans (RecordLines.decode_of_holds hh))

/-- A file with a line that cannot be read. -/
theorem readCache_torn (hs : r.store = some (.atPath path)) (hp : r.poisoned = false)
    (hr : files.read path.route = .ok bytes) {before after : List Bytes} {bad : Bytes}
    (hl : RecordLines.lines bytes = before ++ bad :: after)
    (hh : RecordLines.Holds before records) (hb : RecordLines.content? bad = none) :
    r.readCache files =
      (.error (RecordLines.faultOf (before.length + 1) bad),
        { r with index := (r.index.insertRecords records).2 }) := by
  rw [readCache_atPath hs hp, Store.read_of_file hr, RecordLines.decode_of_fault hl hh hb]
  rfl

theorem start_of_ok {count : Nat} {r' : Resolver} (h : r.readCache files = (.ok count, r')) :
    r.start files = (count, r') := by
  rw [start, h]

theorem start_of_error {fault : Fault} {j : Index} (hp : r.poisoned = false)
    (h : r.readCache files = (.error fault, { r with index := j })) :
    r.start files = (0, { r with index := .empty }) := by
  rw [start, h]
  simp [hp]

end Resolver

namespace Session

/-- **Reading merges up to the first fault, and starting merges all or nothing.**  Without a file
both leave the resolver as it was.  A file whose lines can all be read is merged into the index by
both, and both count the records that have an identifier with a value; these and the skipped records
are all that were read.  If there is a line that cannot be read, reading fails with its fault, and
leaves the records of the lines before it merged; starting leaves an empty index.  There is no other
case, and the maps of the index are in lockstep after each. -/
theorem load_outcomes {s : Session} (h : s.Reachable) {path : Path}
    (hs : s.resolver.store = some (.atPath path)) :
    (s.files.isFile path.route = false →
      s.resolver.readCache s.files = (.ok 0, s.resolver) ∧
        s.resolver.start s.files = (0, s.resolver)) ∧
      (∀ bytes records, s.files.read path.route = .ok bytes →
        RecordLines.Holds (RecordLines.lines bytes) records →
        ∃ count j, s.resolver.index.Merged records j ∧
          count = (records.countP fun r => !r.validIdentifiers.isEmpty) ∧
          ((Store.atPath path).read s.files).outcome =
            .ok (count + (s.resolver.index.insertRecords records).1) ∧
          s.resolver.readCache s.files = (.ok count, { s.resolver with index := j }) ∧
          s.resolver.start s.files = (count, { s.resolver with index := j })) ∧
      (∀ bytes before bad after records, s.files.read path.route = .ok bytes →
        RecordLines.lines bytes = before ++ bad :: after →
        RecordLines.Holds before records → RecordLines.content? bad = none →
        ∃ j, s.resolver.index.Merged records j ∧
          s.resolver.readCache s.files =
            (.error (RecordLines.faultOf (before.length + 1) bad),
              { s.resolver with index := j }) ∧
          s.resolver.start s.files = (0, { s.resolver with index := .empty })) ∧
      (s.files.isFile path.route = false ∨ ∃ bytes, s.files.read path.route = .ok bytes ∧
        ((∃ records, RecordLines.Holds (RecordLines.lines bytes) records) ∨
          ∃ before bad after records, RecordLines.lines bytes = before ++ bad :: after ∧
            RecordLines.Holds before records ∧ RecordLines.content? bad = none)) ∧
      (s.resolver.readCache s.files).2.index.Lockstep ∧
      (s.resolver.start s.files).2.index.Lockstep := by
  have hi := h.sound.index
  have hp := h.sound.unlocked
  refine ⟨fun hf => ?_, fun bytes records hr hh => ?_,
    fun bytes before bad after records hr hl hh hb => ?_, ?_, ?_, ?_⟩
  · have hread := Resolver.readCache_missing hs hp hf
    exact ⟨hread, Resolver.start_of_ok hread⟩
  · have hread := Resolver.readCache_whole hs hp hr hh
    refine ⟨_, _, Index.insertRecords_merged hi records, rfl, ?_, hread,
      Resolver.start_of_ok hread⟩
    rw [Store.read_of_file hr, RecordLines.decode_of_holds hh, Nat.add_comm,
      Index.insertRecords_fst_add]
  · have hread := Resolver.readCache_torn hs hp hr hl hh hb
    exact ⟨_, Index.insertRecords_merged hi records, hread, Resolver.start_of_error hp hread⟩
  · cases hf : s.files.isFile path.route with
    | false => exact .inl rfl
    | true =>
        obtain ⟨bytes, hr⟩ := FileTree.exists_read_of_isFile hf
        exact .inr ⟨bytes, hr, RecordLines.holds_cases _⟩
  -- reading and starting are events of the session
  · obtain ⟨_, hstep, f, -⟩ := step_ok h.sound .readCache
    cases hstep
    exact f.index.toLockstep
  · obtain ⟨_, hstep, f, -⟩ := step_ok h.sound .start
    cases hstep
    exact f.index.toLockstep

/-- The record of the clerk with a telephone. -/
def clerkRecord : Record := ⟨clerk.key, [deskPhone]⟩

/-- A line with this record, and one that is no JSON text. -/
def tornFile : Bytes := RecordLines.recordBytes clerkRecord ++ RecordLines.lineFeed :: [0x6F]

/-- A session with the torn file; the clerk is registered. -/
def tornOffice : Session :=
  after { store := some (.atPath ⟨"office.jsonl"⟩) } {}
    (FileTree.set {} ["office.jsonl"] (.file tornFile)) [.register [clerk]]

/-- Reading adds the telephone to the clerk's entry and fails at the second line; starting leaves
nothing. -/
theorem load_outcomes_torn :
    tornOffice.Reachable ∧
      tornOffice.resolver.store = some (.atPath ⟨"office.jsonl"⟩) ∧
      tornOffice.files.read (Path.route ⟨"office.jsonl"⟩) = .ok tornFile ∧
      ∃ j, tornOffice.resolver.index.Merged [clerkRecord] j ∧
        tornOffice.resolver.readCache tornOffice.files =
          (.error (.format (.line 2)), { tornOffice.resolver with index := j }) ∧
        tornOffice.resolver.start tornOffice.files =
          (0, { tornOffice.resolver with index := .empty }) := by
  have hr : tornOffice.Reachable := reachable_after _ _ _ _
  have hs : tornOffice.resolver.store = some (.atPath ⟨"office.jsonl"⟩) := store_after _ _ _ _
  have hf : tornOffice.files.read (Path.route ⟨"office.jsonl"⟩) = .ok tornFile := by
    decide +kernel
  have hl : RecordLines.lines tornFile = [RecordLines.recordBytes clerkRecord] ++ [[0x6F]] := by
    decide +kernel
  have hc : RecordLines.content? (RecordLines.recordBytes clerkRecord) =
      some (some clerkRecord) := by decide +kernel
  have hb : RecordLines.content? [0x6F] = none := by decide +kernel
  obtain ⟨j, hj, hread, hstart⟩ :=
    (load_outcomes hr hs).2.2.1 _ _ _ _ _ hf hl (.record hc .nil) hb
  have hfault : RecordLines.faultOf 2 [0x6F] = .format (.line 2) := by decide +kernel
  exact ⟨hr, hs, hf, j, hj, hfault ▸ hread, hstart⟩

end Session

end EntityResolution
