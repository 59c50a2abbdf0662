import EntityResolution.Proofs.Store.Replacement

/-!
# What a writing leaves behind

A writing that fails takes its neighbour away again, unless it fails at the last step: a neighbour
that has been written, and cannot be moved over the file, stays (`Stranded`).  That happens where the
path is not that of a file (`stranded_iff`), such as that of a directory
(`write_over_directory_leaves`).

* `not_place_temporary`: where the directories of a path cannot be made, the way to the neighbour
  leads nowhere.  It would pass the directory that could not be made (`isDirectory_of_place`).
* `write_leftover`: a file is at the neighbour after a writing that fails if and only if it is
  stranded there.
-/

namespace EntityResolution

namespace Store

/-! ### The neighbour -/

/-- The way to the neighbour is one leg longer than the way to the file's directory, or than that to
the file. -/
theorem legs_temporary (s : Store) :
    ∃ leg, s.temporary.legs = leg :: s.target.parent.legs ∨
      s.temporary.legs = leg :: s.target.legs := by
  rw [temporary, Route.sibling]
  split
  · exact ⟨_, .inl rfl⟩
  · exact ⟨_, .inr rfl⟩

theorem absolute_temporary (s : Store) : s.temporary.absolute = s.target.absolute := by
  rw [temporary, Route.sibling]
  split <;> rfl

/-- The neighbour lies beyond the file's directory. -/
theorem parent_suffix_temporary (s : Store) :
    s.target.parent.legs <:+ s.temporary.legs ∧ s.target.parent.legs ≠ s.temporary.legs := by
  have htail : s.target.parent.legs <:+ s.target.legs := List.tail_suffix _
  obtain ⟨leg, hl | hl⟩ := s.legs_temporary
  · rw [hl]
    exact ⟨List.suffix_cons leg _, (List.cons_ne_self leg _).symm⟩
  · rw [hl]
    refine ⟨htail.trans (List.suffix_cons leg _), fun he => ?_⟩
    have hlen := htail.length_le
    rw [he, List.length_cons] at hlen
    omega

/-- The steps up on the way to the neighbour are those on the way to the file. -/
theorem climbs_temporary (s : Store) (files : FileTree) :
    files.climbs s.temporary = files.climbs s.target := by
  rw [FileTree.climbs, FileTree.climbs, start_temporary]
  rcases s.steps_temporary with ⟨name, above, htarget, htemporary⟩ | htemporary
  · rw [htarget, htemporary]
    simp
  · rw [htemporary]
    simp

/-- What the neighbour's path leads to stays when the directories are made. -/
theorem found?_temporary {s : Store} {files made : FileTree} (hw : files.WellFormed)
    (hx : files.Extended made s.target.parent) (hc : files.climbs s.target = true) :
    made.found? s.temporary = files.found? s.temporary := by
  have hlegs : s.target.parent.legs <:+ s.temporary.legs.tail := by
    obtain ⟨leg, hl | hl⟩ := s.legs_temporary
    · rw [hl]
      exact List.suffix_refl s.target.parent.legs
    · rw [hl]
      exact List.tail_suffix s.target.legs
  have hx' : files.Extended made s.temporary.parent :=
    hx.mono s.absolute_temporary (hlegs.map Leg.step)
  exact hx'.found?_eq hw (s.climbs_temporary files ▸ hc)

/-- Where the directories above a file cannot be made, the way to its neighbour leads nowhere. -/
theorem not_place_temporary {s : Store} (hr : s.target.parent.Proper) {files made : FileTree}
    {cause : FileError} (h : files.createDirectories s.target.parent = (.error cause, made))
    (l : Location) : made.place s.temporary ≠ .ok l := by
  intro hp
  have hno := FileTree.isDirectory_of_createDirectories hr h
  have hne : s.target.parent.legs ≠ [] := by
    intro hn
    rw [FileTree.createDirectories_of_isDirectory (.inl hn)] at h
    cases h
  have hd := FileTree.isDirectory_of_place (r := s.target.parent) hp s.absolute_temporary
    s.parent_suffix_temporary.1 s.parent_suffix_temporary.2 hne hr rfl
  exact Bool.false_ne_true (hno.symm.trans hd)

/-! ### What is left -/

/-- The last step fails: the directories are there and the neighbour is written, but it cannot be moved
over the file. -/
def Stranded (s : Store) (files : FileTree) (records : List Record) : Prop :=
  ∃ made written count cause, files.createDirectories s.target.parent = (.ok (), made) ∧
    s.writeTemporary made records = (.ok count, written) ∧
    written.rename s.temporary s.target = .error cause

variable {s : Store} {files files' : FileTree} {records : List Record} {fault : Fault}

/-- **When a neighbour is stranded**: it can be written, with all the records, but the path is not
that of a file which it could replace.  The path names no entry of a directory, or ends in a slash, or
leads to a directory. -/
theorem stranded_iff :
    s.Stranded files records ↔
      ∃ made count old, files.createDirectories s.target.parent = (.ok (), made) ∧
        (s.codec.encode records).outcome = .ok count ∧
        made.place s.temporary = .ok old ∧ made.node? old ≠ some .directory ∧
        ∀ new, s.target.namesEntry = true → s.target.ending.isSlash = false →
          made.place s.target = .ok new → made.node? new = some .directory := by
  constructor
  · rintro ⟨made, written, count, cause, hc, hw, hm⟩
    obtain ⟨ho, hwrite⟩ := writeTemporary_ok hw
    obtain ⟨old, -, hold, hdir, rfl⟩ := FileTree.write_eq_ok hwrite
    refine ⟨made, count, old, hc, ho, hold, hdir, fun new hnames hslash hnew => ?_⟩
    by_contra hno
    have hready : s.Ready made old new :=
      ⟨FileTree.isDirectory_createDirectories hc, hnames, hslash, hold, hnew, hdir, hno⟩
    have hready' := hready.congr
      (FileTree.touchedAt_set hdir (s.codec.encode records).accepted).sameDirectories
    cases hm.symm.trans (FileTree.rename_of_place (read_temporary hwrite) hready'.temporary hnames
      hslash hready'.target hready'.notNew)
  · rintro ⟨made, count, old, hc, ho, hold, hdir, hno⟩
    have hwrite := FileTree.write_of_place (s.codec.encode records).accepted s.namesEntry_temporary
      (by rw [temporary_ending]) hold hdir
    cases hm : (made.set old (.file (s.codec.encode records).accepted)).rename s.temporary
        s.target with
    | error cause =>
        exact ⟨made, _, count, cause, hc, by simp only [writeTemporary, hwrite, ho], hm⟩
    | ok files' =>
        obtain ⟨old', new, hr⟩ :=
          replaces_of_rename (FileTree.isDirectory_createDirectories hc) hwrite hm
        exact absurd (hno new hr.namesEntry hr.noSlash hr.target) hr.notNew

/-- A neighbour that is stranded is a file with all the bytes of the codec. -/
theorem found?_of_stranded (h : s.write files records = (.error fault, files'))
    (hs : s.Stranded files records) :
    files'.found? s.temporary = some (.file (s.codec.encode records).accepted) := by
  obtain ⟨made, written, count, cause, hc, hw, -⟩ := hs
  cases course_of_write h with
  | blocked hc' => cases hc'.symm.trans hc
  | dropped hc' hw' =>
      cases hc'.symm.trans hc
      cases hw'.symm.trans hw
  | stranded hc' hw' _ =>
      cases hc'.symm.trans hc
      cases hw'.symm.trans hw
      exact FileTree.found?_of_read (read_temporary (writeTemporary_ok hw).2)

/-- Whatever fails before the last step, no file is left at the neighbour. -/
theorem not_file_of_not_stranded (hr : s.target.parent.Proper)
    (h : s.write files records = (.error fault, files')) (hs : ¬s.Stranded files records)
    (content : Bytes) : files'.found? s.temporary ≠ some (.file content) := by
  cases course_of_write h with
  | blocked hc =>
      rw [FileTree.found?_of_error (not_place_temporary hr hc)]
      exact nofun
  | dropped hc hw => exact FileTree.found?_removeFile _ _ content
  | stranded hc hw hm => exact absurd ⟨_, _, _, _, hc, hw, hm⟩ hs

/-- No directory is at the neighbour where nothing was. -/
theorem not_directory_of_write (hw : files.WellFormed) (hc : files.climbs s.target = true)
    (hn : files.found? s.temporary = none) (h : s.write files records = (.error fault, files')) :
    files'.found? s.temporary ≠ some .directory := by
  obtain ⟨made, hx, ⟨_, _, hwrite, ha⟩ | ⟨_, _, _, _, hwrite, -⟩⟩ := s.write_cases files records
  · cases hwrite.symm.trans h
    have hmade : made.found? s.temporary = none := (found?_temporary hw hx hc).trans hn
    rw [ne_eq, ← FileTree.isDirectory_iff_found?, ha.sameDirectories.isDirectory,
      FileTree.isDirectory_iff_found?, hmade]
    exact nofun
  · cases hwrite.symm.trans h

/-- **What a writing that fails leaves at the neighbour.**  A file is there if and only if it is
stranded there, and then it holds all the bytes of the codec.  If it is not, and nothing was at the
neighbour before, then nothing is there now, provided that each `..` in the path could be followed. -/
theorem write_leftover (path : Path) (codec : Codec) {files files' : FileTree}
    {records : List Record} {fault : Fault}
    (h : Store.write ⟨path.route, codec⟩ files records = (.error fault, files')) :
    let s : Store := ⟨path.route, codec⟩
    (∀ content, files'.found? s.temporary = some (.file content) ↔
      s.Stranded files records ∧ content = (codec.encode records).accepted) ∧
    (files.WellFormed → files.climbs path.route = true → files.found? s.temporary = none →
      ¬s.Stranded files records → files'.found? s.temporary = none) := by
  intro s
  have hproper : s.target.parent.Proper := fun leg hleg =>
    path.proper_route leg (List.mem_of_mem_tail hleg)
  refine ⟨fun content => ⟨fun hf => ?_, ?_⟩, fun hw hc hn hs => ?_⟩
  · have hs : s.Stranded files records := by_contra fun hs =>
      not_file_of_not_stranded hproper h hs content hf
    cases (found?_of_stranded h hs).symm.trans hf
    exact ⟨hs, rfl⟩
  · rintro ⟨hs, rfl⟩
    exact found?_of_stranded h hs
  · rw [Option.eq_none_iff_forall_ne_some]
    intro node
    cases node with
    | file content => exact not_file_of_not_stranded hproper h hs content
    | directory => exact not_directory_of_write hw hc hn h

/-- The codec refuses when the directory is made and the neighbour has its bytes: all that is left is
the directory. -/
theorem write_leftover_refused :
    FileTree.WellFormed {} ∧ FileTree.climbs {} (Path.route ⟨"office/c.jsonl"⟩) = true ∧
      FileTree.found? {} (Path.route ⟨"office/c.jsonl.tmp"⟩) = none ∧
      ∃ fault files', Store.write ⟨Path.route ⟨"office/c.jsonl"⟩, refusing⟩ {}
          [⟨⟨⟨1⟩, .person⟩, []⟩] = (.error fault, files') ∧
        files'.found? (Path.route ⟨"office/c.jsonl.tmp"⟩) = none ∧
        files'.found? (Path.route ⟨"office"⟩) = some .directory := by
  have hw := FileTree.wellFormed_empty
  have hc : FileTree.climbs {} (Path.route ⟨"office/c.jsonl"⟩) = true := by decide +kernel
  have hn : FileTree.found? {} (Path.route ⟨"office/c.jsonl.tmp"⟩) = none := by decide +kernel
  have ht : Store.temporary ⟨Path.route ⟨"office/c.jsonl"⟩, refusing⟩ =
      Path.route ⟨"office/c.jsonl.tmp"⟩ := by decide +kernel
  have hfault : (Store.write ⟨Path.route ⟨"office/c.jsonl"⟩, refusing⟩ {}
      [⟨⟨⟨1⟩, .person⟩, []⟩]).1 = .error (.format (.stopped "refused")) := by decide +kernel
  have hwrite : Store.write ⟨Path.route ⟨"office/c.jsonl"⟩, refusing⟩ {}
      [⟨⟨⟨1⟩, .person⟩, []⟩] = (_, _) := Prod.ext hfault rfl
  have hleft := (write_leftover ⟨"office/c.jsonl"⟩ refusing hwrite).2 hw hc
  rw [ht] at hleft
  refine ⟨hw, hc, hn, _, _, hwrite, hleft hn ?_, by decide +kernel⟩
  rintro ⟨made, written, count, cause, -, ht, -⟩
  cases (writeTemporary_ok ht).1

/-- **A writing over a directory fails and leaves its neighbour behind**, where nothing was. -/
theorem write_over_directory_leaves :
    ∃ files : FileTree, files.WellFormed ∧
      files.climbs (Path.route ⟨"d"⟩) = true ∧ files.found? (Path.route ⟨"d.tmp"⟩) = none ∧
      ∃ files', (Store.atPath ⟨"d"⟩).write files [] = (.error (.file .isDirectory), files') ∧
        (Store.atPath ⟨"d"⟩).temporary = Path.route ⟨"d.tmp"⟩ ∧
        files'.found? (Path.route ⟨"d.tmp"⟩) = some (.file []) := by
  have hw : (FileTree.set {} ["d"] .directory).WellFormed :=
    FileTree.wellFormed_empty.set rfl (by simp [FileTree.node?_empty])
  have hfault : ((Store.atPath ⟨"d"⟩).write (FileTree.set {} ["d"] .directory) []).1 =
      .error (.file .isDirectory) := by decide +kernel
  exact ⟨_, hw, by decide +kernel, by decide +kernel, _, Prod.ext hfault rfl, by decide +kernel,
    by decide +kernel⟩

end Store

end EntityResolution
