import EntityResolution.Proofs.FileTree.Replace
import Mathlib.Data.List.Induction

/-!
# What changes leave alone

Files change at a few places, and everything else stays what it is.  But a route may lead somewhere
else after a change, since it is walked through directories: so a frame is stated twice, for places
(`node?`) and for routes (`found?`, what stands at the end of a route, if anything does).

* `SameDirectories`: two trees with the same directories lead a route to the same place.
* `TouchedAt`: what stands at one place has changed, and neither was nor is a directory.
-/

namespace EntityResolution

namespace Route

theorem steps_parent (r : Route) : r.parent.steps = r.steps.tail := List.map_tail

end Route

namespace FileTree

/-- Every node stands in a directory. -/
def WellFormed (t : FileTree) : Prop :=
  ∀ l n, t.node? l = some n → t.node? l.parent = some .directory

/-- What stands at the end of a route, if anything does. -/
def found? (t : FileTree) (r : Route) : Option Node := (t.look r).toOption

/-- Every step up on the way can be taken: the way can be walked as far as its last step up. -/
def climbs (t : FileTree) (r : Route) : Bool :=
  (t.walk (t.start r) (r.steps.dropWhile (· ≠ .up))).isOk

/-- The first steps of the way to the end of a route lead to the location. -/
def OnWay (t : FileTree) (r : Route) (l : Location) : Prop :=
  ∃ front, front ≠ [] ∧ front <:+ r.steps ∧ t.walk (t.start r) front = .ok l

/-! ### Well-formed trees -/

theorem node?_empty (l : Location) :
    node? {} l = if l = [] then some .directory else none := by
  cases l with
  | nil => rfl
  | cons name l => exact Std.TreeMap.getElem?_emptyc

theorem wellFormed_empty : WellFormed {} := by
  intro l n h
  rw [node?_empty] at h
  split at h
  · next hl => rw [hl]; rfl
  · cases h

/-- A node may be set in a directory, if it takes no directory away. -/
theorem WellFormed.set {t : FileTree} (h : t.WellFormed) {l : Location} {n : Node}
    (hp : t.node? l.parent = some .directory) (hl : t.node? l ≠ some .directory) :
    (t.set l n).WellFormed := by
  have hne := ne_nil_of_node? hl
  intro k m hk
  have hparent : t.node? k.parent = some .directory := by
    rw [node?_set t hne] at hk
    split at hk
    · next hlk => rw [← hlk]; exact hp
    · exact h k m hk
  rw [node?_set t hne, if_neg, hparent]
  rintro rfl
  exact hl hparent

/-- Nothing stands below a place where nothing stands. -/
theorem WellFormed.node?_of_prefix {t : FileTree} (h : t.WellFormed) {l k : Location}
    (hl : t.node? l = none) (hk : l <+: k) : t.node? k = none := by
  obtain ⟨names, rfl⟩ := hk
  -- from the place down, one name at a time: what stands deeper stands in a directory
  induction names using List.reverseRecOn with
  | nil => rwa [List.append_nil]
  | append_singleton names name ih =>
      rw [Option.eq_none_iff_forall_ne_some]
      intro n hn
      have hp := h _ n hn
      rw [Location.parent, ← List.append_assoc, List.dropLast_concat, ih] at hp
      cases hp

/-! ### Walks -/

theorem step_eq_ok {t : FileTree} {l k : Location} {s : Step} (h : t.step l s = .ok k) :
    t.node? l = some .directory ∧ k = s.move l := by
  obtain ⟨u, hu, hm⟩ := Except.exists_of_bind_eq_ok h
  refine ⟨(requireDirectory_eq_ok u).mp hu, ?_⟩
  cases s with
  | up => cases hm; rfl
  | into name =>
      dsimp only at hm
      split at hm
      · cases hm
      · cases hm; rfl

/-- A step that one tree allows is allowed by another that has the directory it starts in. -/
theorem step_of_directory {t t' : FileTree} {l k : Location} {s : Step} (h : t.step l s = .ok k)
    (hl : t'.node? l = some .directory) : t'.step l s = .ok k := by
  obtain ⟨u, -, hm⟩ := Except.exists_of_bind_eq_ok h
  simp only [step, (requireDirectory_eq_ok u).mpr hl, bind, Except.bind]
  exact hm

/-- A walk goes through where its first steps lead, and goes on from there. -/
theorem walk_append {t : FileTree} {start l : Location} {back front : List Step}
    (h : t.walk start (back ++ front) = .ok l) :
    ∃ k, t.walk start front = .ok k ∧ t.walk k back = .ok l ∧
      (back ≠ [] → t.node? k = some .directory) := by
  induction back generalizing l with
  | nil => exact ⟨l, h, rfl, fun hn => absurd rfl hn⟩
  | cons s back ih =>
      obtain ⟨m, hm, hs⟩ := Except.exists_of_bind_eq_ok h
      obtain ⟨k, hk, hb, hd⟩ := ih hm
      refine ⟨k, hk, by rw [walk, hb]; exact hs, fun _ => ?_⟩
      cases back with
      | nil =>
          cases hb
          exact (step_eq_ok hs).1
      | cons s' back => exact hd (List.cons_ne_nil s' back)

theorem walk_append_eq {t : FileTree} {start k l : Location} {back front : List Step}
    (hf : t.walk start front = .ok k) (hb : t.walk k back = .ok l) :
    t.walk start (back ++ front) = .ok l := by
  induction back generalizing l with
  | nil => exact hb ▸ hf
  | cons s back ih =>
      obtain ⟨m, hm, hs⟩ := Except.exists_of_bind_eq_ok hb
      rw [List.cons_append, walk, ih hm]
      exact hs

/-- A walk that takes no step up goes down, one name a step. -/
theorem prefix_of_walk {t : FileTree} {k l : Location} {back : List Step} (hup : .up ∉ back)
    (h : t.walk k back = .ok l) : k <+: l ∧ l.length = k.length + back.length := by
  induction back generalizing l with
  | nil =>
      cases h
      exact ⟨List.prefix_refl k, rfl⟩
  | cons s back ih =>
      obtain ⟨m, hm, hs⟩ := Except.exists_of_bind_eq_ok h
      obtain ⟨hp, hlen⟩ := ih (List.not_mem_of_not_mem_cons hup) hm
      obtain ⟨-, rfl⟩ := step_eq_ok hs
      cases s with
      | up => exact absurd List.mem_cons_self hup
      | into name =>
          refine ⟨hp.trans (List.prefix_append m [name]), ?_⟩
          simp only [Step.move, Location.child, List.length_append, List.length_cons,
            List.length_nil, hlen]
          omega

/-- What one tree lets through another lets through too, or it lacks a directory on the way. -/
theorem walk_or_missing {t t' : FileTree} {start l : Location} {steps : List Step}
    (h : t'.walk start steps = .ok l) :
    t.walk start steps = .ok l ∨
      ∃ back front k, back ≠ [] ∧ back ++ front = steps ∧ t'.walk start front = .ok k ∧
        t'.node? k = some .directory ∧ t.node? k ≠ some .directory := by
  induction steps generalizing l with
  | nil => exact .inl h
  | cons s above ih =>
      obtain ⟨m, hm, hs⟩ := Except.exists_of_bind_eq_ok h
      rcases ih hm with ht | ⟨back, front, k, hne, happ, hk, hd, hn⟩
      · by_cases hd : t.node? m = some .directory
        · refine .inl ?_
          rw [walk, ht]
          exact step_of_directory hs hd
        · exact .inr ⟨[s], above, m, List.cons_ne_nil s [], rfl, hm, (step_eq_ok hs).1, hd⟩
      · exact .inr ⟨s :: back, front, k, List.cons_ne_nil s back, by rw [← happ]; rfl, hk, hd, hn⟩

theorem place_eq_ok_iff {t : FileTree} {r : Route} {l : Location} :
    t.place r = .ok l ↔ r.refusal? = none ∧ t.walk (t.start r) r.steps = .ok l := by
  rw [place]
  cases r.refusal? with
  | none => simp
  | some cause => simp

theorem isDirectory_iff {t : FileTree} {r : Route} :
    t.isDirectory r = true ↔ ∃ l, t.place r = .ok l ∧ t.node? l = some .directory := by
  rw [isDirectory, look]
  cases hp : t.place r with
  | error cause => simp [bind, Except.bind]
  | ok l =>
      cases hn : t.node? l with
      | none => simp [bind, Except.bind, hn, throw, throwThe, MonadExceptOf.throw]
      | some n =>
          cases n with
          | directory => simp [bind, Except.bind, hn, pure, Except.pure]
          | file content =>
              cases hs : r.ending.size with
              | zero => simp [bind, Except.bind, hn, pure, Except.pure]
              | succ size => simp [bind, Except.bind, hn, throw, throwThe, MonadExceptOf.throw]

theorem start_eq {t t' : FileTree} {r : Route} (h : t'.here = t.here) : t'.start r = t.start r := by
  rw [start, start, h]

/-- The way as far as its last step up can be walked, and the steps behind it go down. -/
theorem exists_of_climbs {t : FileTree} {r : Route} (h : t.climbs r = true) :
    ∃ back climb base, back ++ climb = r.steps ∧ .up ∉ back ∧
      t.walk (t.start r) climb = .ok base := by
  rw [climbs] at h
  cases hb : t.walk (t.start r) (r.steps.dropWhile (· ≠ .up)) with
  | error cause => rw [hb] at h; cases h
  | ok base =>
      refine ⟨r.steps.takeWhile (· ≠ .up), _, base, List.takeWhile_append_dropWhile, ?_, hb⟩
      intro hup
      simpa using List.all_eq_true.mp List.all_takeWhile _ hup

/-! ### What a route leads to -/

theorem not_place_of_error {t : FileTree} {r : Route} {cause : FileError}
    (h : t.place r = .error cause) (l : Location) : t.place r ≠ .ok l := by
  rw [h]
  exact nofun

theorem found?_of_error {t : FileTree} {r : Route} (h : ∀ l, t.place r ≠ .ok l) :
    t.found? r = none := by
  rw [found?, look]
  cases hp : t.place r with
  | error cause => rfl
  | ok l => exact absurd hp (h l)

theorem found?_of_none {t : FileTree} {r : Route} {l : Location} (hp : t.place r = .ok l)
    (hn : t.node? l = none) : t.found? r = none := by
  rw [found?, look, hp]
  simp only [bind, Except.bind, hn]
  rfl

theorem found?_congr {t t' : FileTree} {r : Route} {l : Location} (hp : t.place r = .ok l)
    (hp' : t'.place r = .ok l) (hn : t'.node? l = t.node? l) : t'.found? r = t.found? r := by
  rw [found?, found?, look, look, hp, hp']
  simp only [bind, Except.bind, hn]

theorem found?_of_read {t : FileTree} {r : Route} {content : Bytes} (h : t.read r = .ok content) :
    t.found? r = some (.file content) := by
  obtain ⟨node, hlook, hread⟩ := Except.exists_of_bind_eq_ok h
  cases node with
  | directory => cases hread
  | file content' =>
      cases hread
      rw [found?, hlook]
      rfl

theorem isDirectory_iff_found? {t : FileTree} {r : Route} :
    t.isDirectory r = true ↔ t.found? r = some .directory := by
  rw [isDirectory, found?]
  cases t.look r with
  | error cause => simp [Except.toOption]
  | ok node => cases node <;> simp [Except.toOption]

theorem isFile_of_found? {t : FileTree} {r : Route} {content : Bytes}
    (h : t.found? r = some (.file content)) : t.isFile r = true := by
  rw [found?] at h
  rw [isFile]
  cases hl : t.look r with
  | error cause => simp [hl, Except.toOption] at h
  | ok node =>
      rw [hl] at h
      cases h
      rfl

/-! ### The same directories -/

/-- Both trees have the same directories, and relative routes start in the same. -/
structure SameDirectories (t t' : FileTree) : Prop where
  here : t'.here = t.here
  directory : ∀ l, t'.node? l = some .directory ↔ t.node? l = some .directory

namespace SameDirectories

variable {t t' : FileTree}

theorem place_iff (h : SameDirectories t t') (r : Route) (l : Location) :
    t'.place r = .ok l ↔ t.place r = .ok l :=
  ⟨place_of_directories (fun k => (h.directory k).mp) h.here.symm,
    place_of_directories (fun k => (h.directory k).mpr) h.here⟩

theorem isDirectory (h : SameDirectories t t') (r : Route) :
    t'.isDirectory r = t.isDirectory r := by
  rw [Bool.eq_iff_iff, isDirectory_iff, isDirectory_iff]
  simp only [h.place_iff, h.directory]

theorem onWay (h : SameDirectories t t') {r : Route} {l : Location} (ho : t.OnWay r l) :
    t'.OnWay r l := by
  obtain ⟨front, hne, hf, hw⟩ := ho
  refine ⟨front, hne, hf, ?_⟩
  rw [start, h.here]
  exact walk_of_directories (fun k => (h.directory k).mpr) hw

/-- A route leads to the same where only places differ to which it does not lead. -/
theorem found?_eq (h : SameDirectories t t') {r : Route}
    (hn : ∀ l, t.place r = .ok l → t'.node? l = t.node? l) : t'.found? r = t.found? r := by
  cases hp : t.place r with
  | ok l => exact found?_congr hp ((h.place_iff r l).mpr hp) (hn l hp)
  | error cause =>
      have hno := not_place_of_error hp
      rw [found?_of_error hno, found?_of_error fun l hl => hno l ((h.place_iff r l).mp hl)]

end SameDirectories

/-- `t'` is `t` but for what stands at one place, which neither was nor is a directory. -/
structure TouchedAt (t t' : FileTree) (l : Location) : Prop where
  here : t'.here = t.here
  node : ∀ k, l ≠ k → t'.node? k = t.node? k
  before : t.node? l ≠ some .directory
  after : t'.node? l ≠ some .directory

namespace TouchedAt

variable {t t' : FileTree} {l : Location}

theorem sameDirectories (h : TouchedAt t t' l) : SameDirectories t t' where
  here := h.here
  directory k := by
    by_cases hk : l = k
    · subst hk
      exact iff_of_false h.after h.before
    · rw [h.node k hk]

theorem trans {t'' : FileTree} (h : TouchedAt t t' l) (h' : TouchedAt t' t'' l) :
    TouchedAt t t'' l :=
  ⟨h'.here.trans h.here, fun k hk => (h'.node k hk).trans (h.node k hk), h.before, h'.after⟩

end TouchedAt

theorem touchedAt_set {t : FileTree} {l : Location} (hl : t.node? l ≠ some .directory)
    (content : Bytes) : TouchedAt t (t.set l (.file content)) l where
  here := rfl
  node k hk := by rw [node?_set t (ne_nil_of_node? hl), if_neg hk]
  before := hl
  after := by simp [node?_set t (ne_nil_of_node? hl)]

theorem touchedAt_erase {t : FileTree} {l : Location} (hl : t.node? l ≠ some .directory) :
    TouchedAt t (t.erase l) l where
  here := rfl
  node k hk := by rw [node?_erase t (ne_nil_of_node? hl), if_neg hk]
  before := hl
  after := by simp [node?_erase t (ne_nil_of_node? hl)]

/-- What a writing does when it succeeds: a file stands at the end of the route. -/
theorem write_eq_ok {t t' : FileTree} {r : Route} {content : Bytes}
    (h : t.write r content = .ok t') :
    ∃ l, r.namesEntry = true ∧ t.place r = .ok l ∧ t.node? l ≠ some .directory ∧
      t' = t.set l (.file content) := by
  obtain ⟨l, hl, h⟩ := Except.exists_of_bind_eq_ok h
  obtain ⟨hnames, hp⟩ := place_of_entryPlace hl
  split at h
  · cases h
  · next hno =>
    cases h
    exact ⟨l, hnames, hp, fun hd => hno (.inr hd), rfl⟩

theorem node?_of_isFile {t : FileTree} {r : Route} {l : Location} (h : t.isFile r = true)
    (hp : t.place r = .ok l) : t.node? l ≠ some .directory := by
  intro hd
  simp [isFile, look, hp, hd, bind, Except.bind, pure, Except.pure] at h

/-- Only a file is removed. -/
theorem removeFile_cases (t : FileTree) (r : Route) :
    t.removeFile r = t ∨ ∃ l, t.place r = .ok l ∧ TouchedAt t (t.removeFile r) l := by
  rw [removeFile]
  split
  · next l hf hp => exact .inr ⟨l, hp, touchedAt_erase (node?_of_isFile hf hp)⟩
  · exact .inl rfl

/-- No file is found where a file has been removed. -/
theorem found?_removeFile (t : FileTree) (r : Route) (content : Bytes) :
    (t.removeFile r).found? r ≠ some (.file content) := by
  intro h
  rw [removeFile] at h
  split at h
  · next l hf hp =>
    have hl := node?_of_isFile hf hp
    have hgone : (t.erase l).node? l = none := by
      rw [node?_erase t (ne_nil_of_node? hl), if_pos rfl]
    have hp' := ((touchedAt_erase hl).sameDirectories.place_iff r l).mpr hp
    cases (found?_of_none hp' hgone).symm.trans h
  · next hno =>
    cases hp : t.place r with
    | error cause => cases (found?_of_error (not_place_of_error hp)).symm.trans h
    | ok l => exact hno l (isFile_of_found? h) hp

end FileTree

end EntityResolution
