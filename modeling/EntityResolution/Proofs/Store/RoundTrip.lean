import EntityResolution.Proofs.FileTree.Replace
import EntityResolution.Proofs.Record.RoundTrip
import EntityResolution.Record.Store

/-!
# Round trip of a store

After a store of record lines has written records, its file holds one line for each, and reading
it yields the records again (`write_ok`).  Writing goes to a neighbour of the file, so the proof
follows the bytes there and from there to the file.  The step at which a writing ends is its `Course`.
-/

namespace EntityResolution.Store

/-- The store of record lines at a path. -/
def atPath (path : Path) : Store := { target := path.route }

/-- The neighbour that is written first is a plain name in a directory. -/
theorem temporary_ending (s : Store) : s.temporary.ending = {} := by
  rw [temporary, Route.sibling]
  split <;> rfl

theorem writeTemporary_ok {s : Store} {files files' : FileTree} {records : List Record}
    {count : Nat} (h : s.writeTemporary files records = (.ok count, files')) :
    (s.codec.encode records).outcome = .ok count ∧
      files.write s.temporary (s.codec.encode records).accepted = .ok files' := by
  simp only [writeTemporary] at h
  split at h
  · cases h
  · next hw =>
    obtain ⟨ho, rfl⟩ := Prod.mk.inj h
    exact ⟨ho, hw⟩

/-- The bytes of the codec are read at the neighbour. -/
theorem read_temporary {s : Store} {files files' : FileTree} {content : Bytes}
    (h : files.write s.temporary content = .ok files') : files'.read s.temporary = .ok content :=
  FileTree.read_write h (by rw [temporary_ending])

/-- The course of a writing, by the step at which it ends. -/
inductive Course (s : Store) (files : FileTree) (records : List Record) :
    Except Fault Nat → FileTree → Prop
  /-- The directories cannot be made. -/
  | blocked {cause made}
      (hc : files.createDirectories s.target.parent = (.error cause, made)) :
      Course s files records (.error (.file cause)) made
  /-- The records cannot be written to the neighbour, which is taken away. -/
  | dropped {made left fault}
      (hc : files.createDirectories s.target.parent = (.ok (), made))
      (hw : s.writeTemporary made records = (.error fault, left)) :
      Course s files records (.error fault) (left.removeFile s.temporary)
  /-- The neighbour cannot be moved, and stays. -/
  | stranded {made written count cause}
      (hc : files.createDirectories s.target.parent = (.ok (), made))
      (hw : s.writeTemporary made records = (.ok count, written))
      (hm : written.rename s.temporary s.target = .error cause) :
      Course s files records (.error (.file cause)) written
  /-- The neighbour takes the place of the file. -/
  | done {made written count files'}
      (hc : files.createDirectories s.target.parent = (.ok (), made))
      (hw : s.writeTemporary made records = (.ok count, written))
      (hm : written.rename s.temporary s.target = .ok files') :
      Course s files records (.ok count) files'

/-- **Every writing takes one of these courses.** -/
theorem course_of_write {s : Store} {files files' : FileTree} {records : List Record}
    {outcome : Except Fault Nat} (h : s.write files records = (outcome, files')) :
    s.Course files records outcome files' := by
  simp only [write] at h
  split at h
  · next hc =>
    cases h
    exact .blocked hc
  · next hc =>
    split at h
    · next hw =>
      cases h
      exact .dropped hc hw
    · next hw =>
      split at h
      · next hm =>
        cases h
        exact .stranded hc hw hm
      · next hm =>
        cases h
        exact .done hc hw hm

/-- A writing that succeeds leaves the bytes that the codec makes of the records. -/
theorem write_accepted {s : Store}
    (he : s.target.ending.size = 0 ∨ s.target.ending.isDot = true ∨
      s.target.ending.isSlash = true)
    {files files' : FileTree} {records : List Record} {count : Nat}
    (h : s.write files records = (.ok count, files')) :
    (s.codec.encode records).outcome = .ok count ∧
      files'.read s.target = .ok (s.codec.encode records).accepted := by
  cases course_of_write h with
  | done hc hw hm =>
      obtain ⟨ho, hwrite⟩ := writeTemporary_ok hw
      obtain ⟨content, hcontent, htarget⟩ := FileTree.read_rename hm he
      -- what is moved is what has just been written to the neighbour
      cases (read_temporary hwrite).symm.trans hcontent
      exact ⟨ho, htarget⟩

/-- **What a store has written it reads.**  The file has one line for each record. -/
theorem write_ok {path : Path} {files files' : FileTree} {records : List Record} {count : Nat}
    (h : (atPath path).write files records = (.ok count, files')) :
    count = records.length ∧ ∃ bytes, files'.read path.route = .ok bytes ∧
      (RecordLines.lines bytes).length = records.length ∧
      RecordLines.decode bytes = ⟨records.map Record.stored, .ok records.length⟩ := by
  obtain ⟨ho, hread⟩ := write_accepted path.route_ending h
  rw [show (atPath path).codec.encode records = RecordLines.write {} records from rfl] at ho hread
  have hcount : count = records.length := by
    rw [RecordLines.write_eq] at ho
    exact (Except.ok.inj ho).symm
  refine ⟨hcount, _, hread, ?_, RecordLines.decode_accepted records⟩
  rw [RecordLines.lines_accepted, List.length_map]

theorem read_of_file {path : Path} {files : FileTree} {bytes : Bytes}
    (h : files.read path.route = .ok bytes) :
    (atPath path).read files = RecordLines.decode bytes := by
  rw [read, show (atPath path).target = path.route from rfl, h]
  rfl

end EntityResolution.Store
