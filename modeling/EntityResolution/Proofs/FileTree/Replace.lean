import EntityResolution.Fault
import EntityResolution.FileTree.Basic

/-!
# Files that take the place of others

What is written to a file is read from it (`read_write`), and a file that is moved over another is
read at its new place (`read_rename`).  Where a route leads hangs on the directories only
(`place_of_directories`), and neither operation takes a directory away.

A route that is read from a path has something behind its last step only where it ends in a dot
or a slash (`Path.route_ending`), so a route to a file that can be replaced has nothing there.
-/

namespace EntityResolution

namespace FileTree

/-! ### Nodes after a change -/

theorem node?_set (t : FileTree) {l : Location} (hl : l ≠ []) (n : Node) (k : Location) :
    (t.set l n).node? k = if l = k then some n else t.node? k := by
  cases k with
  | nil => rw [if_neg hl]; rfl
  | cons name k =>
      simp only [node?, set, Std.TreeMap.getElem?_insert, Std.LawfulEqCmp.compare_eq_iff_eq]

theorem node?_erase (t : FileTree) {l : Location} (hl : l ≠ []) (k : Location) :
    (t.erase l).node? k = if l = k then none else t.node? k := by
  cases k with
  | nil => rw [if_neg hl]; rfl
  | cons name k =>
      simp only [node?, erase, Std.TreeMap.getElem?_erase, Std.LawfulEqCmp.compare_eq_iff_eq]

/-- Only the root has no node of its own, and it is a directory. -/
theorem ne_nil_of_node? {t : FileTree} {l : Location} (h : t.node? l ≠ some .directory) :
    l ≠ [] := by
  rintro rfl
  exact h rfl

/-! ### Where a route leads -/

theorem requireDirectory_eq_ok {t : FileTree} {l : Location} (u : Unit) :
    t.requireDirectory l = .ok u ↔ t.node? l = some .directory := by
  rw [requireDirectory]
  split <;> simp_all

theorem walk_of_directories {t t' : FileTree}
    (h : ∀ l, t.node? l = some .directory → t'.node? l = some .directory) {start : Location}
    {steps : List Step} {l : Location} (hw : t.walk start steps = .ok l) :
    t'.walk start steps = .ok l := by
  induction steps generalizing l with
  | nil => exact hw
  | cons s above ih =>
      obtain ⟨k, hk, hs⟩ := Except.exists_of_bind_eq_ok hw
      obtain ⟨u, hu, hm⟩ := Except.exists_of_bind_eq_ok hs
      have hu' := (requireDirectory_eq_ok u).mpr (h k ((requireDirectory_eq_ok u).mp hu))
      rw [walk, ih hk]
      simp only [bind, Except.bind, step, hu']
      exact hm

/-- **Where a route leads** hangs on the directories only. -/
theorem place_of_directories {t t' : FileTree}
    (h : ∀ l, t.node? l = some .directory → t'.node? l = some .directory)
    (hhere : t'.here = t.here) {r : Route} {l : Location} (hp : t.place r = .ok l) :
    t'.place r = .ok l := by
  rw [place] at hp ⊢
  cases hr : r.refusal? with
  | some cause => rw [hr] at hp; cases hp
  | none =>
      rw [hr] at hp
      simp only [start, hhere] at hp ⊢
      exact walk_of_directories h hp

theorem place_of_entryPlace {t : FileTree} {r : Route} {cause : FileError} {l : Location}
    (h : t.entryPlace r cause = .ok l) : r.namesEntry = true ∧ t.place r = .ok l := by
  rw [entryPlace] at h
  split at h
  · next hn => exact ⟨hn, h⟩
  · obtain ⟨node, -, hthrow⟩ := Except.exists_of_bind_eq_ok h
    cases hthrow

theorem read_of_place {t : FileTree} {r : Route} {l : Location} {content : Bytes}
    (hp : t.place r = .ok l) (hn : t.node? l = some (.file content)) (he : r.ending.size = 0) :
    t.read r = .ok content := by
  simp only [read, look, hp, hn, he, bind, Except.bind]
  rfl

/-- What is read is the content of a file at the end of the route. -/
theorem place_of_read {t : FileTree} {r : Route} {content : Bytes}
    (h : t.read r = .ok content) :
    ∃ l, t.place r = .ok l ∧ t.node? l = some (.file content) := by
  obtain ⟨node, hlook, hread⟩ := Except.exists_of_bind_eq_ok h
  obtain ⟨l, hp, hnode⟩ := Except.exists_of_bind_eq_ok hlook
  refine ⟨l, hp, ?_⟩
  split at hnode
  · cases hnode
  · next hn _ => cases hnode; cases hread; exact hn
  · cases hnode
  · cases hnode; cases hread

/-! ### Writing and moving -/

/-- A file set where no directory stands takes no directory away. -/
theorem directory_set {t : FileTree} {l k : Location} {content : Bytes}
    (hl : t.node? l ≠ some .directory) (hk : t.node? k = some .directory) :
    (t.set l (.file content)).node? k = some .directory := by
  rw [node?_set t (ne_nil_of_node? hl), if_neg, hk]
  rintro rfl
  exact hl hk

/-- A file set at the end of a route is read there. -/
theorem read_set {t : FileTree} {r : Route} {l : Location} {content : Bytes}
    (hp : t.place r = .ok l) (hl : t.node? l ≠ some .directory) (he : r.ending.size = 0) :
    (t.set l (.file content)).read r = .ok content := by
  refine read_of_place (place_of_directories (fun k => directory_set hl) rfl hp) ?_ he
  rw [node?_set t (ne_nil_of_node? hl), if_pos rfl]

/-- **What is written is read.** -/
theorem read_write {t t' : FileTree} {r : Route} {content : Bytes}
    (h : t.write r content = .ok t') (he : r.ending.size = 0) : t'.read r = .ok content := by
  obtain ⟨l, hl, h⟩ := Except.exists_of_bind_eq_ok h
  split at h
  · cases h
  · next hno =>
    cases h
    exact read_set (place_of_entryPlace hl).2 (fun hd => hno (.inr hd)) he

/-- What a move does when it succeeds: the file goes, and stands at a place where no directory
was. -/
theorem rename_ok {t t' : FileTree} {source target : Route}
    (h : t.rename source target = .ok t') :
    ∃ content old new, t.read source = .ok content ∧ t.place source = .ok old ∧
      t.node? old = some (.file content) ∧ target.namesEntry = true ∧
      target.ending.isSlash = false ∧ t.place target = .ok new ∧
      t.node? new ≠ some .directory ∧ t' = (t.erase old).set new (.file content) := by
  obtain ⟨content, hread, h⟩ := Except.exists_of_bind_eq_ok h
  obtain ⟨old, hold, h⟩ := Except.exists_of_bind_eq_ok h
  obtain ⟨new, hnew, h⟩ := Except.exists_of_bind_eq_ok h
  obtain ⟨hnames, hplace⟩ := place_of_entryPlace hnew
  obtain ⟨l, hl, hfile⟩ := place_of_read hread
  cases hold.symm.trans hl
  by_cases hslash : target.ending.isSlash = true
  · simp only [hslash, if_true] at h
    cases h
  by_cases hdir : t.node? new = some .directory
  · simp only [hslash, hdir, if_true] at h
    cases h
  simp only [hslash, hdir] at h
  cases h
  exact ⟨content, old, new, hread, hold, hfile, hnames, Bool.eq_false_iff.mpr hslash, hplace,
    hdir, rfl⟩

/-- **A file that is moved is read at its new place.** -/
theorem read_rename {t t' : FileTree} {source target : Route}
    (h : t.rename source target = .ok t')
    (he : target.ending.size = 0 ∨ target.ending.isDot = true ∨ target.ending.isSlash = true) :
    ∃ content, t.read source = .ok content ∧ t'.read target = .ok content := by
  obtain ⟨content, old, new, hread, -, hfile, hnames, hslash, hplace, hdir, rfl⟩ := rename_ok h
  have hsize : target.ending.size = 0 := by
    rcases he with he | he | he
    · exact he
    · simp [Route.namesEntry, he] at hnames
    · rw [hslash] at he
      cases he
  -- what is taken away is a file, so the way to the target stays
  have hne : old ≠ [] := ne_nil_of_node? (by rw [hfile]; simp)
  have herase : ∀ k, t.node? k = some .directory → (t.erase old).node? k = some .directory := by
    intro k hk
    rw [node?_erase t hne, if_neg, hk]
    rintro rfl
    rw [hfile] at hk
    cases hk
  have hnew : (t.erase old).node? new ≠ some .directory := by
    rw [node?_erase t hne]
    split
    · simp
    · exact hdir
  exact ⟨content, hread, read_set (place_of_directories herase rfl hplace) hnew hsize⟩

end FileTree

/-! ### Routes of paths -/

namespace Path

theorem eq_of_stepOf? {part : String} (h : stepOf? part = none) : part = "" ∨ part = "." := by
  rw [stepOf?] at h
  split at h
  · assumption
  · split at h <;> cases h

/-- What stands behind the last leg ends in an empty part or in a dot. -/
theorem getLast?_of_legsOf {filler : Nat} {parts : List String} (hne : parts ≠ [])
    (h : (legsOf filler parts).2 ≠ 0) :
    parts.getLast? = some "" ∨ parts.getLast? = some "." := by
  induction parts generalizing filler with
  | nil => exact absurd rfl hne
  | cons part rest ih =>
      rw [legsOf] at h
      cases rest with
      | nil =>
          cases hs : stepOf? part with
          | none => rcases eq_of_stepOf? hs with rfl | rfl <;> simp
          | some step =>
              rw [hs] at h
              exact absurd rfl h
      | cons next rest =>
          rw [List.getLast?_cons_cons]
          cases hs : stepOf? part with
          | none =>
              rw [hs] at h
              exact ih (List.cons_ne_nil next rest) h
          | some step =>
              rw [hs] at h
              exact ih (List.cons_ne_nil next rest) h

/-- **The ending of a path**: nothing, or a dot or a slash at its end. -/
theorem route_ending (p : Path) :
    p.route.ending.size = 0 ∨ p.route.ending.isDot = true ∨ p.route.ending.isSlash = true := by
  have hroute : p.route.ending =
      if (legsOf 0 p.parts).2 = 0 then {}
      else endingOf (legsOf 0 p.parts).2 p.parts.reverse := rfl
  rw [hroute]
  split
  · exact .inl rfl
  next h =>
  by_cases hne : p.parts = []
  · rw [hne] at h
    exact absurd rfl h
  · rcases getLast?_of_legsOf hne h with hl | hl
    · exact .inr (.inr (by simp [endingOf, hl]))
    · obtain ⟨front, hf⟩ := List.getLast?_eq_some_iff.mp hl
      exact .inr (.inl (by simp [endingOf, hf]))

end Path

end EntityResolution
