import EntityResolution.Proofs.FileTree.Frame

/-!
# Directories on the way

The directories on the way to the end of a route are made where they are missing, and those that are
made stay, also when something stops it half way.

* `Extended`: directories have been made on the way to the end of a route, where nothing was.  That
  is what `createDirectories` does (`createDirectories_extended`).
* `isDirectory_createDirectories`, `isDirectory_of_createDirectories`: a directory is at the end of
  the way if and only if nothing stops it.  A way that leads beyond would pass that directory
  (`isDirectory_of_place`).
* `Extended.found?_eq`: making the directories above the end of a route does not change what the
  route leads to, as long as the route does not climb out of a directory that was missing
  (`climbs`): a route that climbs out of `a` leads nowhere while `a` is missing, whatever stands
  behind it.
-/

namespace EntityResolution

/-! ### The way to a directory that is passed -/

namespace Route

/-- Each step has a text. -/
def Proper (r : Route) : Prop := ∀ leg ∈ r.legs, leg.step.text ≠ ""

theorem sum_size_le {legs legs' : List Leg} (h : legs <:+ legs') :
    legs.foldr (fun l n => l.size + n) 0 ≤ legs'.foldr (fun l n => l.size + n) 0 := by
  obtain ⟨front, rfl⟩ := h
  induction front with
  | nil => exact Nat.le_refl _
  | cons leg front ih => exact Nat.le_trans ih (Nat.le_add_left _ _)

theorem refusal?_eq_none_iff {r : Route} :
    r.refusal? = none ↔
      (∀ name ∈ r.names, '\x00' ∉ name.toList) ∧ 0 < r.size ∧ r.size < sizeLimit := by
  rw [refusal?]
  by_cases hnul : (r.names.any fun name => name.toList.contains '\x00') = true
  · rw [if_pos hnul]
    simp only [List.any_eq_true, List.contains_iff_mem] at hnul
    obtain ⟨name, hname, hmem⟩ := hnul
    exact iff_of_false nofun fun h => h.1 name hname hmem
  · rw [if_neg hnul]
    simp only [List.any_eq_true, List.contains_iff_mem, not_exists, not_and] at hnul
    rw [and_iff_right hnul]
    split
    · simp; omega
    · split
      · simp; omega
      · simp; omega

/-- The way to a directory that is passed is not refused, if the whole way is not. -/
theorem refusal?_of_suffix {r r' : Route} (ha : r'.absolute = r.absolute) (hs : r.legs <:+ r'.legs)
    (hne : r.legs ≠ []) (hr : r.Proper) (he : r.ending = {}) (h : r'.refusal? = none) :
    r.refusal? = none := by
  rw [refusal?_eq_none_iff] at h ⊢
  obtain ⟨hnul, -, hlt⟩ := h
  refine ⟨fun name hname => hnul name ?_, ?_, ?_⟩
  · exact ((hs.map Leg.step).filterMap _).subset hname
  · obtain ⟨leg, above, hlegs⟩ := List.exists_cons_of_ne_nil hne
    have hleg : 0 < leg.step.text.utf8ByteSize := Nat.pos_of_ne_zero fun h0 =>
      hr leg (hlegs ▸ List.mem_cons_self) (String.utf8ByteSize_eq_zero_iff.mp h0)
    rw [size, hlegs, List.foldr_cons, Leg.size]
    omega
  · have hle := sum_size_le hs
    rw [size, ha] at hlt
    rw [size, he]
    dsimp only
    omega

end Route

namespace Path

theorem text_ne_of_stepOf? {part : String} {step : Step} (h : stepOf? part = some step) :
    step.text ≠ "" := by
  rw [stepOf?] at h
  split at h
  · cases h
  next hpart =>
  split at h
  · cases h
    decide
  · cases h
    exact fun he => hpart (.inl he)

theorem text_ne_of_legsOf (filler : Nat) (parts : List String) :
    ∀ leg ∈ (legsOf filler parts).1, leg.step.text ≠ "" := by
  induction parts generalizing filler with
  | nil => exact nofun
  | cons part rest ih =>
      rw [legsOf]
      cases hs : stepOf? part with
      | none => exact ih _
      | some step => exact List.forall_mem_cons.mpr ⟨text_ne_of_stepOf? hs, ih _⟩

theorem proper_route (p : Path) : p.route.Proper := fun leg hleg =>
  text_ne_of_legsOf 0 p.parts leg (List.mem_reverse.mp hleg)

end Path

namespace FileTree

/-! ### Directories that are made -/

/-- `t'` is `t` with directories made on the way to the end of a route, where nothing was. -/
structure Extended (t t' : FileTree) (r : Route) : Prop where
  here : t'.here = t.here
  node : ∀ l, t'.node? l = t.node? l ∨
    t.node? l = none ∧ t'.node? l = some .directory ∧ t'.OnWay r l

namespace Extended

variable {t t' t'' : FileTree} {r r' : Route}

theorem refl (t : FileTree) (r : Route) : Extended t t r := ⟨rfl, fun _ => .inl rfl⟩

theorem directory (h : Extended t t' r) {l : Location} (hl : t.node? l = some .directory) :
    t'.node? l = some .directory := by
  rcases h.node l with hs | ⟨hn, -, -⟩
  · rw [hs, hl]
  · rw [hn] at hl
    cases hl

theorem walk (h : Extended t t' r) {start l : Location} {steps : List Step}
    (hw : t.walk start steps = .ok l) : t'.walk start steps = .ok l :=
  walk_of_directories (fun _ => h.directory) hw

/-- The way to a place is part of the way beyond it. -/
theorem mono (h : Extended t t' r) (ha : r'.absolute = r.absolute) (hs : r.steps <:+ r'.steps) :
    Extended t t' r' := by
  refine ⟨h.here, fun l => (h.node l).imp_right ?_⟩
  rintro ⟨hn, hd, front, hne, hf, hw⟩
  refine ⟨hn, hd, front, hne, hf.trans hs, ?_⟩
  rw [start, ha]
  exact hw

theorem trans (h : Extended t t' r) (h' : Extended t' t'' r) : Extended t t'' r where
  here := h'.here.trans h.here
  node l := by
    rcases h'.node l with hs' | ⟨hn', hd', ho'⟩
    · rcases h.node l with hs | ⟨hn, hd, front, hne, hf, hw⟩
      · exact .inl (hs'.trans hs)
      · refine .inr ⟨hn, hs'.trans hd, front, hne, hf, ?_⟩
        rw [start, h'.here]
        exact h'.walk hw
    · rcases h.node l with hs | ⟨-, hd, -⟩
      · exact .inr ⟨hs ▸ hn', hd', ho'⟩
      · rw [hd] at hn'
        cases hn'

end Extended

/-- What `createDirectory` does when it succeeds: a directory stands where nothing was. -/
theorem createDirectory_eq_ok {t t' : FileTree} {r : Route} (h : t.createDirectory r = .ok t') :
    ∃ l, r.steps ≠ [] ∧ t.place r = .ok l ∧ t.node? l = none ∧ t' = t.set l .directory := by
  obtain ⟨l, hl, h⟩ := Except.exists_of_bind_eq_ok h
  obtain ⟨hnames, hp⟩ := place_of_entryPlace hl
  split at h
  · cases h
  · next hno =>
    cases h
    refine ⟨l, fun hs => ?_, hp, Option.not_isSome_iff_eq_none.mp hno, rfl⟩
    have hlegs : r.legs = [] := List.map_eq_nil_iff.mp hs
    simp [Route.namesEntry, Route.name?, hlegs] at hnames

/-- A directory is there afterwards, and nothing else has changed. -/
theorem ensureDirectory_ok {t t' : FileTree} {r : Route} (h : t.ensureDirectory r = .ok t') :
    Extended t t' r ∧ t'.isDirectory r = true := by
  rw [ensureDirectory] at h
  cases hc : t.createDirectory r with
  | ok made =>
      rw [hc] at h
      cases h
      obtain ⟨l, hsteps, hp, hn, rfl⟩ := createDirectory_eq_ok hc
      have hne : l ≠ [] := ne_nil_of_node? (by rw [hn]; simp)
      have hset : (t.set l .directory).node? l = some .directory := by
        rw [node?_set t hne, if_pos rfl]
      have hdir : ∀ k, t.node? k = some .directory →
          (t.set l .directory).node? k = some .directory := by
        intro k hk
        rw [node?_set t hne]
        split
        · rfl
        · exact hk
      have hp' := place_of_directories hdir rfl hp
      refine ⟨⟨rfl, fun k => ?_⟩, isDirectory_iff.mpr ⟨l, hp', hset⟩⟩
      by_cases hk : l = k
      · subst hk
        exact .inr ⟨hn, hset, r.steps, hsteps, List.suffix_refl _, (place_eq_ok_iff.mp hp').2⟩
      · exact .inl (by rw [node?_set t hne, if_neg hk])
  | error cause =>
      rw [hc] at h
      dsimp only at h
      split at h
      · next hd =>
        cases h
        exact ⟨.refl t r, hd⟩
      · cases h

theorem ensureDirectory_of_isDirectory {t : FileTree} {r : Route} (h : t.isDirectory r = true) :
    t.ensureDirectory r = .ok t := by
  rw [ensureDirectory]
  cases hc : t.createDirectory r with
  | error cause => exact if_pos h
  | ok made =>
      obtain ⟨l, -, hp, hn, -⟩ := createDirectory_eq_ok hc
      obtain ⟨k, hk, hd⟩ := isDirectory_iff.mp h
      cases hp.symm.trans hk
      rw [hn] at hd
      cases hd

theorem createLegs_ok (t : FileTree) (absolute : Bool) (legs : List Leg) (ending : Ending) :
    Extended t (t.createLegs absolute legs ending).2 ⟨absolute, legs, ending⟩ ∧
      ((t.createLegs absolute legs ending).1 = .ok () → legs = [] ∨
        (t.createLegs absolute legs ending).2.isDirectory ⟨absolute, legs, ending⟩ = true) := by
  induction legs generalizing t ending with
  | nil => exact ⟨.refl t _, fun _ => .inl rfl⟩
  | cons leg above ih =>
      -- what is made above the last leg is made on the way to it
      have habove : ∀ t, Extended t (t.createLegs absolute above {}).2
          ⟨absolute, leg :: above, ending⟩ := fun t =>
        (ih t {}).1.mono rfl (List.suffix_cons leg.step (above.map Leg.step))
      rw [createLegs]
      split
      · next he =>
        obtain ⟨hx, hd⟩ := ensureDirectory_ok he
        exact ⟨hx, fun _ => .inr hd⟩
      · split
        · next hc =>
          have hx := habove t
          rw [hc] at hx
          exact ⟨hx, fun ho => by cases ho⟩
        · next hc =>
          have hx := habove t
          rw [hc] at hx
          split
          · next he =>
            obtain ⟨hx', hd⟩ := ensureDirectory_ok he
            exact ⟨hx.trans hx', fun _ => .inr hd⟩
          · exact ⟨hx, fun ho => by cases ho⟩
      · exact ⟨.refl t _, fun ho => by cases ho⟩

/-- **Directories are made on the way**, where nothing was, also when something stops it. -/
theorem createDirectories_extended (t : FileTree) (r : Route) :
    Extended t (t.createDirectories r).2 r :=
  (createLegs_ok t r.absolute r.legs r.ending).1

/-- When nothing stops it, there is a directory at the end of the way. -/
theorem isDirectory_createDirectories {t t' : FileTree} {r : Route}
    (h : t.createDirectories r = (.ok (), t')) : r.legs = [] ∨ t'.isDirectory r = true := by
  have hd := (createLegs_ok t r.absolute r.legs r.ending).2
  rw [createDirectories] at h
  rw [h] at hd
  exact hd rfl

/-- There is nothing to make where a directory is. -/
theorem createDirectories_of_isDirectory {t : FileTree} {r : Route}
    (h : r.legs = [] ∨ t.isDirectory r = true) : t.createDirectories r = (.ok (), t) := by
  obtain ⟨absolute, legs, ending⟩ := r
  rw [createDirectories]
  cases legs with
  | nil => rfl
  | cons leg above =>
      have hd := h.resolve_left (List.cons_ne_nil leg above)
      simp only [createLegs, ensureDirectory_of_isDirectory hd]

/-- A way that can be walked leads through directories. -/
theorem isDirectory_of_place {t : FileTree} {r r' : Route} {l : Location}
    (hp : t.place r' = .ok l) (ha : r'.absolute = r.absolute) (hs : r.legs <:+ r'.legs)
    (hlt : r.legs ≠ r'.legs) (hne : r.legs ≠ []) (hr : r.Proper) (he : r.ending = {}) :
    t.isDirectory r = true := by
  obtain ⟨hrefusal, hw⟩ := place_eq_ok_iff.mp hp
  have hrefusal' := Route.refusal?_of_suffix ha hs hne hr he hrefusal
  obtain ⟨front, hlegs⟩ := hs
  have hsteps : r'.steps = front.map Leg.step ++ r.steps := by
    rw [Route.steps, ← hlegs, List.map_append, Route.steps]
  rw [hsteps, start, ha] at hw
  obtain ⟨k, hk, -, hd⟩ := walk_append hw
  refine isDirectory_iff.mpr ⟨k, place_eq_ok_iff.mpr ⟨hrefusal', hk⟩, hd fun hf => hlt ?_⟩
  rw [← hlegs, List.map_eq_nil_iff.mp hf, List.nil_append]

theorem isDirectory_of_ensureDirectory {t : FileTree} {r : Route} {cause : FileError}
    (h : t.ensureDirectory r = .error cause) : t.isDirectory r = false := by
  rw [ensureDirectory] at h
  split at h
  · cases h
  · split at h
    · cases h
    · next hd => exact Bool.eq_false_iff.mpr hd

/-- When something stops the making of directories, there is none at the end of the way. -/
theorem isDirectory_createLegs {t t' : FileTree} {absolute : Bool} {legs : List Leg}
    {ending : Ending} {cause : FileError} (hr : ∀ leg ∈ legs, leg.step.text ≠ "")
    (h : t.createLegs absolute legs ending = (.error cause, t')) :
    t'.isDirectory ⟨absolute, legs, ending⟩ = false := by
  induction legs generalizing t t' ending cause with
  | nil => cases h
  | cons leg above ih =>
      rw [createLegs] at h
      split at h
      · cases h
      · split at h
        · next hc =>
          cases h
          have habove := ih (fun leg' hleg => hr leg' (List.mem_cons_of_mem leg hleg)) hc
          have hne : above ≠ [] := by
            rintro rfl
            cases hc
          -- a directory that is passed on the way could not be made
          refine Bool.eq_false_iff.mpr fun hd => ?_
          obtain ⟨l, hp, -⟩ := isDirectory_iff.mp hd
          have hpassed : t'.isDirectory ⟨absolute, above, {}⟩ = true :=
            isDirectory_of_place hp rfl (List.suffix_cons leg above)
              (List.cons_ne_self leg above).symm hne
              (fun leg' hleg => hr leg' (List.mem_cons_of_mem leg hleg)) rfl
          exact Bool.false_ne_true (habove.symm.trans hpassed)
        · split at h
          · cases h
          · next he =>
            cases h
            exact isDirectory_of_ensureDirectory he
      · next he =>
        cases h
        exact isDirectory_of_ensureDirectory he

theorem isDirectory_of_createDirectories {t t' : FileTree} {r : Route} (hr : r.Proper)
    {cause : FileError} (h : t.createDirectories r = (.error cause, t')) :
    t'.isDirectory r = false :=
  isDirectory_createLegs hr h

/-! ### What a route leads to when the directories above it are made -/

namespace Extended

variable {t t' : FileTree} {r : Route}

/-- A place to which the first steps of a walk lead was there before, if the walk could be taken. -/
theorem directory_of_walk (h : Extended t t' r) {start l k : Location} {front steps : List Step}
    (hw : t.walk start steps = .ok l) (hf : front <:+ steps) (hne : front ≠ steps)
    (hk : t'.walk start front = .ok k) : t.node? k = some .directory := by
  obtain ⟨back, rfl⟩ := hf
  obtain ⟨m, hm, -, hd⟩ := walk_append hw
  cases (h.walk hm).symm.trans hk
  exact hd fun hb => hne (by rw [hb]; rfl)

/-- A route that leads to a place leads to the same. -/
theorem found?_of_place (h : Extended t t' r.parent) {l : Location} (hp : t.place r = .ok l) :
    t'.found? r = t.found? r := by
  refine found?_congr hp (place_of_directories (fun _ => h.directory) h.here hp) ?_
  -- a directory made at the place itself would be one that the walk has left before its last step
  refine (h.node l).resolve_right ?_
  rintro ⟨hn, -, front, hne, hf, hw⟩
  rw [Route.steps_parent] at hf
  rw [start_eq (r := r.parent) h.here] at hw
  have hlt : front ≠ r.steps := by
    rintro rfl
    have hlen := hf.length_le
    rw [List.length_tail] at hlen
    have := List.length_pos_iff.mpr hne
    omega
  have hd := h.directory_of_walk (place_eq_ok_iff.mp hp).2 (hf.trans (List.tail_suffix _)) hlt hw
  rw [hn] at hd
  cases hd

/-- Where a walk down leads only now, nothing was: a directory on the way was missing. -/
theorem node?_of_walk (hwf : t.WellFormed) (h : Extended t t' r) {base l : Location}
    {back : List Step} (hup : .up ∉ back) (hw : t.walk base back ≠ .ok l)
    (hw' : t'.walk base back = .ok l) : t.node? l = none := by
  rcases walk_or_missing (t := t) hw' with ht | ⟨down, front, k, -, rfl, hk, hd, hno⟩
  · exact absurd ht hw
  have hmissing : t.node? k = none := by
    rcases h.node k with hs | ⟨hn, -, -⟩
    · exact absurd (hs ▸ hd) hno
    · exact hn
  obtain ⟨k', hk', hdown, -⟩ := walk_append hw'
  cases hk.symm.trans hk'
  exact hwf.node?_of_prefix hmissing
    (prefix_of_walk (fun hu => hup (List.mem_append_left front hu)) hdown).1

/-- The first steps of a way that goes down at its end lead to no place where nothing was and to
which all steps lead: those that go up were possible before, and those that go down end higher. -/
theorem not_walk_of_front (h : Extended t t' r) {start base l : Location}
    {back climb front : List Step} (hup : .up ∉ back) (hbase : t.walk start climb = .ok base)
    (hl : t'.walk base back = .ok l) (hn : t.node? l = none) (hf : front <:+ back ++ climb)
    (hlt : front.length < (back ++ climb).length) : t'.walk start front ≠ .ok l := by
  intro hfront
  obtain ⟨-, hlen⟩ := prefix_of_walk hup hl
  by_cases hc : climb <:+ front
  -- below the last step up each step leads one name deeper, and fewer of them end higher
  · obtain ⟨down, rfl⟩ := hc
    obtain ⟨base', hbase', hdown, -⟩ := walk_append hfront
    cases (h.walk hbase).symm.trans hbase'
    have hdu := (List.suffix_append_self_iff.mp hf).subset
    obtain ⟨-, hlen'⟩ := prefix_of_walk (fun hu => hup (hdu hu)) hdown
    simp only [List.length_append] at hlt
    omega
  -- as far as the last step up the way leads through directories that were there before
  · have hs := (List.suffix_or_suffix_of_suffix hf (List.suffix_append back climb)).resolve_right hc
    have hd := h.directory_of_walk hbase hs (fun he => hc (he ▸ List.suffix_refl _)) hfront
    rw [hn] at hd
    cases hd

/-- Where a route leads only now, nothing stands. -/
theorem node?_of_place (hwf : t.WellFormed) (h : Extended t t' r.parent)
    (hc : t.climbs r = true) {l : Location} (hp : t.place r ≠ .ok l) (hp' : t'.place r = .ok l) :
    t'.node? l = none := by
  obtain ⟨hrefusal, hw'⟩ := place_eq_ok_iff.mp hp'
  have hw : t.walk (t.start r) r.steps ≠ .ok l := fun hw => hp (place_eq_ok_iff.mpr ⟨hrefusal, hw⟩)
  rw [start_eq h.here] at hw'
  obtain ⟨back, climb, base, hsteps, hup, hbase⟩ := exists_of_climbs hc
  rw [← hsteps] at hw hw'
  obtain ⟨base', hbase', hback, -⟩ := walk_append hw'
  cases (h.walk hbase).symm.trans hbase'
  -- nothing was there, and nothing has been made there, since only the way above the end is made
  have hnone := h.node?_of_walk hwf hup (fun ht => hw (walk_append_eq hbase ht)) hback
  refine (h.node l).elim (fun hs => hs.trans hnone) ?_
  rintro ⟨-, -, front, hne, hf, hfront⟩
  rw [Route.steps_parent, ← hsteps] at hf
  rw [start_eq (r := r.parent) h.here] at hfront
  refine absurd hfront
    (h.not_walk_of_front hup hbase hback hnone (hf.trans (List.tail_suffix _)) ?_)
  have hle := hf.length_le
  have hpos := List.length_pos_iff.mpr hne
  rw [List.length_tail] at hle
  omega

/-- **Making the directories above the end of a route** does not change what it leads to, as long as
its steps up could be taken before. -/
theorem found?_eq (hwf : t.WellFormed) (h : Extended t t' r.parent) (hc : t.climbs r = true) :
    t'.found? r = t.found? r := by
  cases hp : t.place r with
  | ok l => exact h.found?_of_place hp
  | error cause =>
      rw [found?_of_error (not_place_of_error hp)]
      cases hp' : t'.place r with
      | ok l => exact found?_of_none hp' (h.node?_of_place hwf hc (not_place_of_error hp l) hp')
      | error cause' => exact found?_of_error (not_place_of_error hp')

end Extended

end FileTree

end EntityResolution
