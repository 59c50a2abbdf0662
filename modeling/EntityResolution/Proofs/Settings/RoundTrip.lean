import EntityResolution.Proofs.Settings.Form
import EntityResolution.Proofs.Store.Replacement

/-!
# Round trip of settings

Settings are written to a neighbour of their file and moved from there.  Whether that works does not
hang on the settings, only on the route and the files (`Writable`, `writable_iff`), but for the one
number that the format may be too small for, which is looked at before anything is done.

* `save_load`: a file of settings says the settings again exactly if the number is at least 1 and
  fits the format.  A number that does not fit is refused, and nothing is changed.  The number 0 is
  written, and only the reader refuses it.
-/

namespace EntityResolution.Settings

/-! ### The neighbour -/

/-- The neighbour is a plain name in a directory, if it is an entry at all. -/
theorem temporary_ending {r : Route} (h : (temporary r).namesEntry = true) :
    (temporary r).ending = {} := by
  obtain ⟨absolute, legs, ending⟩ := r
  cases legs with
  | nil => cases h
  | cons leg above =>
      obtain ⟨step, filler⟩ := leg
      cases step with
      | up => cases h
      | into name =>
          rw [temporary, Route.withExtension] at h ⊢
          dsimp only at h ⊢
          split at h
          · cases h
          · next hname => rw [if_neg hname]

/-- In a tree that has the directories above it, a file of settings can be replaced by way of its
neighbour: both are entries, and no directory stands at either place. -/
structure Ready (r : Route) (t : FileTree) (old new : Location) : Prop where
  neighbourEntry : (temporary r).namesEntry = true
  neighbour : t.place (temporary r) = .ok old
  notOld : t.node? old ≠ some .directory
  entry : r.namesEntry = true
  noSlash : r.ending.isSlash = false
  target : t.place r = .ok new
  notNew : t.node? new ≠ some .directory

/-- A file of settings can be written at the end of the route: the directories above it are there or
can be made, and then it can be replaced. -/
def Writable (files : FileTree) (r : Route) : Prop :=
  ∃ made old new, files.createDirectories r.parent = (.ok (), made) ∧ Ready r made old new

/-! ### Writing -/

theorem save_of_large {s : Settings} (h : maxNumber < s.candidateLimit) (files : FileTree)
    (r : Route) : s.save files r = (.error .unwritable, files) := by
  rw [save, if_pos h]

/-- **Where a file can be written**, all settings whose number fits are. -/
theorem Writable.exists_save {files : FileTree} {r : Route} (h : Writable files r) {s : Settings}
    (hs : s.candidateLimit ≤ maxNumber) : ∃ files', s.save files r = (.ok (), files') := by
  obtain ⟨made, old, new, hmade, hr⟩ := h
  have hending := temporary_ending hr.neighbourEntry
  have hwrite := FileTree.write_of_place (Utf8.encode s.form) hr.neighbourEntry
    (by rw [hending]) hr.neighbour hr.notOld
  have hread := FileTree.read_write hwrite (by rw [hending])
  -- the neighbour is a file, so that the way to the target stays
  have hsame := (FileTree.touchedAt_set hr.notOld (Utf8.encode s.form)).sameDirectories
  have hrename := FileTree.rename_of_place hread ((hsame.place_iff _ _).mpr hr.neighbour) hr.entry
    hr.noSlash ((hsame.place_iff _ _).mpr hr.target) (mt (hsame.directory new).mp hr.notNew)
  exact ⟨(s.save files r).2, by
    simp only [save, Nat.not_lt.mpr hs, if_false, hmade, hwrite, hrename]⟩

/-- What a writing that succeeds has done: it has written the text of the settings to the neighbour
and moved it. -/
theorem save_ok {s : Settings} {files files' : FileTree} {r : Route}
    (h : s.save files r = (.ok (), files')) :
    s.candidateLimit ≤ maxNumber ∧ ∃ made written,
      files.createDirectories r.parent = (.ok (), made) ∧
      made.write (temporary r) (Utf8.encode s.form) = .ok written ∧
      written.rename (temporary r) r = .ok files' := by
  rw [save] at h
  split at h
  · cases h
  next hlimit =>
  split at h
  · cases h
  next hmade =>
  split at h
  · cases h
  next hwrite =>
  split at h
  · cases h
  next hrename =>
  cases h
  exact ⟨Nat.le_of_not_lt hlimit, _, _, hmade, hwrite, hrename⟩

theorem Writable.of_save {s : Settings} {files files' : FileTree} {r : Route}
    (h : s.save files r = (.ok (), files')) : Writable files r := by
  obtain ⟨-, made, written, hmade, hwrite, hrename⟩ := save_ok h
  obtain ⟨old, hneighbour, hold, hnotOld, rfl⟩ := FileTree.write_eq_ok hwrite
  obtain ⟨_, _, new, -, -, -, hentry, hslash, hnew, hnotNew, -⟩ := FileTree.rename_ok hrename
  have hsame := (FileTree.touchedAt_set hnotOld (Utf8.encode s.form)).sameDirectories
  exact ⟨made, old, new, hmade, hneighbour, hold, hnotOld, hentry, hslash,
    (hsame.place_iff _ _).mp hnew, mt (hsame.directory new).mpr hnotNew⟩

/-- **Where a file can be written** is where some settings can be. -/
theorem writable_iff {files : FileTree} {r : Route} :
    Writable files r ↔ ∃ s files', save s files r = (.ok (), files') := by
  constructor
  · intro h
    exact ⟨{}, h.exists_save (by decide)⟩
  · rintro ⟨s, files', h⟩
    exact .of_save h

/-! ### Reading -/

/-- What has been written is read. -/
theorem read_save {s : Settings} {files files' : FileTree} {path : Path}
    (h : s.save files path.route = (.ok (), files')) :
    files'.read path.route = .ok (Utf8.encode s.form) := by
  obtain ⟨-, made, written, -, hwrite, hrename⟩ := save_ok h
  obtain ⟨-, hneighbour, -⟩ := FileTree.write_eq_ok hwrite
  have hread := FileTree.read_write hwrite (by rw [temporary_ending hneighbour])
  obtain ⟨content, hcontent, htarget⟩ := FileTree.read_rename hrename path.route_ending
  -- what is moved is what has just been written to the neighbour
  cases hread.symm.trans hcontent
  exact htarget

theorem load_of_read {files : FileTree} {r : Route} {text : List Char}
    (h : files.read r = .ok (Utf8.encode text)) : load files r = ofText? text := by
  obtain ⟨node, hlook, -⟩ := Except.exists_of_bind_eq_ok h
  have hpresent : files.isPresent r = true := by
    rw [FileTree.isPresent, hlook]
    rfl
  simp only [load, hpresent, if_true, h, Utf8.decode?_encode]

/-- What is loaded after a writing. -/
theorem load_save {s : Settings} {files files' : FileTree} {path : Path}
    (h : s.save files path.route = (.ok (), files')) :
    load files' path.route = if s.candidateLimit = 0 then .error .zeroLimit else .ok s := by
  rw [load_of_read (read_save h), ofText?_form (save_ok h).1]

/-- **The round trip of settings.**  Settings whose number does not fit the format are refused, and
nothing is changed.  Where a file can be written, settings can be written and are then loaded again
exactly if their number is at least 1 and fits the format, whatever their texts are.  The number 0
can be written, but not loaded. -/
theorem save_load (path : Path) (files : FileTree) (s : Settings) :
    (2 ^ 63 - 1 < s.candidateLimit → s.save files path.route = (.error .unwritable, files)) ∧
    (Writable files path.route →
      ((∃ files', s.save files path.route = (.ok (), files') ∧ load files' path.route = .ok s) ↔
        1 ≤ s.candidateLimit ∧ s.candidateLimit ≤ 2 ^ 63 - 1) ∧
      (s.candidateLimit = 0 → ∃ files', s.save files path.route = (.ok (), files') ∧
        load files' path.route = .error .zeroLimit)) := by
  have hmax : maxNumber = 2 ^ 63 - 1 := by decide
  refine ⟨fun hlarge => save_of_large (hmax ▸ hlarge) files path.route, fun hw => ⟨⟨?_, ?_⟩, ?_⟩⟩
  · rintro ⟨files', hsave, hload⟩
    refine ⟨Nat.one_le_iff_ne_zero.mpr fun hzero => ?_, hmax ▸ (save_ok hsave).1⟩
    rw [load_save hsave, if_pos hzero] at hload
    cases hload
  · rintro ⟨hone, hfits⟩
    obtain ⟨files', hsave⟩ := hw.exists_save (s := s) (hmax ▸ hfits)
    exact ⟨files', hsave, by rw [load_save hsave, if_neg (Nat.one_le_iff_ne_zero.mp hone)]⟩
  · intro hzero
    obtain ⟨files', hsave⟩ := hw.exists_save (s := s) (hzero ▸ Nat.zero_le _)
    exact ⟨files', hsave, by rw [load_save hsave, if_pos hzero]⟩

/-- Settings with texts that need every kind of care. -/
def thorny : Settings where
  cacheFile := some ⟨"C:\\it's \"here\"\n'''\x00"⟩
  candidateLimit := 2 ^ 63 - 1
  level := "\n\"\"\"\\'''\r\x7F"

/-- They are loaded again, also from a directory that has to be made first. -/
theorem save_load_thorny :
    Writable {} (Path.route ⟨"conf/app.toml"⟩) ∧
      ∃ files', thorny.save {} (Path.route ⟨"conf/app.toml"⟩) = (.ok (), files') ∧
        load files' (Path.route ⟨"conf/app.toml"⟩) = .ok thorny := by
  have hw : Writable {} (Path.route ⟨"conf/app.toml"⟩) := by
    refine ⟨_, ["conf", "app.toml.tmp"], ["conf", "app.toml"], Prod.ext (by decide +kernel) rfl,
      ?_⟩
    constructor <;> decide +kernel
  exact ⟨hw, ((save_load ⟨"conf/app.toml"⟩ {} thorny).2 hw).1.mpr (by decide)⟩

end EntityResolution.Settings
