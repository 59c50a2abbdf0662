import EntityResolution.Proofs.Index.Counts
import EntityResolution.Proofs.Session.Links

/-!
# Counts and records

The counts of an index are read off both of its maps, and its records off the entries alone, with
those left out that hold no identifier with a value.  In a sound index there are none of these, and
the maps are in lockstep, so the counts can be told from the records: they are the numbers of the
records, of those of each kind (`Sound.countKind_eq`), of those whose object is held
(`Sound.countP_values_eq`), and of the identifiers that stand in them (`Sound.tracked_eq`).

The identifiers of a record come in the order of `Identifier.Before`.
-/

namespace EntityResolution

/-! ### The order of identifiers -/

namespace Identifier

/-- Schema first, then type, value and context, each text by its characters; an absent context comes
before any other. -/
def Before (a b : Identifier) : Prop :=
  a.schema.toList < b.schema.toList ∨ a.schema = b.schema ∧
    (a.type.toList < b.type.toList ∨ a.type = b.type ∧
      (a.value.toList < b.value.toList ∨ a.value = b.value ∧
        match a.context, b.context with
        | _, none => False
        | none, some _ => True
        | some x, some y => x.toList < y.toList))

theorem compare_text_eq_lt_iff (x y : String) : compare x y = .lt ↔ x.toList < y.toList :=
  compareOfLessAndEq_eq_lt.trans String.lt_iff

theorem compare_context_eq_lt_iff (x y : Option String) :
    compare x y = .lt ↔ match x, y with
      | _, none => False
      | none, some _ => True
      | some x, some y => x.toList < y.toList := by
  cases x with
  | none =>
      cases y with
      | none => exact iff_false_intro nofun
      | some y => exact iff_true_intro rfl
  | some x =>
      cases y with
      | none => exact iff_false_intro nofun
      | some y => exact compare_text_eq_lt_iff x y

theorem compare_eq_lt_iff {a b : Identifier} : compare a b = .lt ↔ a.Before b := by
  rw [show compare a b = compareLex (compareOn schema) (compareLex (compareOn type)
    (compareLex (compareOn value) (compareOn context))) a b from rfl]
  simp only [compareLex, compareOn, Ordering.then_eq_lt, Std.LawfulEqOrd.compare_eq_iff_eq,
    compare_text_eq_lt_iff, compare_context_eq_lt_iff, Before]

end Identifier

namespace Index

/-! ### The counts told from the records -/

theorem Sound.countP_keys_eq {i : Index} (h : i.Sound) (p : Key → Bool) :
    i.entries.keys.countP p = i.records.countP fun r => p r.key := by
  rw [← h.map_key_records, List.countP_map]
  rfl

theorem Sound.countKind_eq {i : Index} (h : i.Sound) (kind : Kind) :
    i.countKind kind = i.records.countP fun r => r.key.kind == kind :=
  h.countP_keys_eq _

/-- Each key is of one kind. -/
theorem size_eq_countKind (i : Index) :
    i.size = i.countKind .person + i.countKind .resource + i.countKind .tool := by
  rw [size, ← Std.TreeMap.length_keys, countKind, countKind, countKind]
  induction i.entries.keys with
  | nil => rfl
  | cons key keys ih =>
      obtain ⟨id, kind⟩ := key
      rw [List.length_cons, ih, List.countP_cons, List.countP_cons, List.countP_cons]
      cases kind with
      | person => simp; omega
      | resource => simp; omega
      | tool => simp; omega

/-- The entries that report an object are counted among the records. -/
theorem Sound.countP_values_eq {i : Index} (h : i.Sound) (owners : Owners) :
    (i.entries.values.countP fun e => e.isLive owners) =
      i.records.countP fun r =>
        ((i.get? r.key).bind fun e => e.liveObject? owners).isSome := by
  rw [countP_values, h.countP_keys_eq]
  simp only [bind_liveObject?]

/-- The identifiers with a bucket are those that stand in the records. -/
theorem Sound.tracked_eq {i : Index} (h : i.Sound) :
    i.tracked = (i.records.flatMap Record.identifiers).toFinset := by
  ext id
  rw [mem_tracked, h.isSome_candidates?_iff, List.mem_toFinset, List.mem_flatMap]
  constructor
  · rintro ⟨key, hc⟩
    obtain ⟨r, hr, rfl, -⟩ := (h.carries_iff_records key id).mpr hc
    exact ⟨r, hr, (h.mem_identifiers hr).mpr hc⟩
  · rintro ⟨r, hr, hid⟩
    exact ⟨r.key, (h.mem_identifiers hr).mp hid⟩

/-- What a key carries, told from the list of its identifiers. -/
theorem carries_iff_toList (i : Index) (key : Key) (id : Identifier) :
    i.Carries key id ↔
      ∃ ids, ((i.get? key).map fun e => e.identifiers.toList) = some ids ∧ id ∈ ids := by
  simp [Carries, SmallSet.mem_toList]

theorem Sound.mem_keys_records {i : Index} (h : i.Sound) (key : Key) :
    key ∈ i.records.map Record.key ↔ i.contains key = true := by
  rw [h.map_key_records, ← mem_indexed, indexed, List.mem_toFinset]

theorem Sound.identifiers_increasing {i : Index} (h : i.Sound) {r : Record} (hr : r ∈ i.records) :
    r.identifiers.Pairwise Identifier.Before := by
  obtain ⟨e, he, hids⟩ := h.mem_records.mp hr
  rw [hids]
  exact (h.entry he).sortedValid_increasing.imp fun hlt => Identifier.compare_eq_lt_iff.mp hlt

end Index

namespace Session

/-- **Counts and records agree**, at every point of every run.  There is one record for each key that
is indexed, and all are counted, each for its kind.  A record lists the identifiers that its key is
indexed under, in increasing order; all the identifiers listed are counted once; and so are the keys
that report an object.  And in two sessions, a key has the same record if it is indexed under the
same identifiers, whatever has led to that. -/
theorem stats_records {s : Session} (h : s.Reachable) :
    let i := s.resolver.index
    let stats := i.stats s.owners
    (stats.entities = i.size ∧ i.size = i.records.length ∧
      i.size = stats.persons + stats.resources + stats.tools) ∧
    (stats.persons = i.records.countP (fun r => r.key.kind == .person) ∧
      stats.resources = i.records.countP (fun r => r.key.kind == .resource) ∧
      stats.tools = i.records.countP (fun r => r.key.kind == .tool)) ∧
    ((i.records.map Record.key).Nodup ∧
      ∀ key, key ∈ i.records.map Record.key ↔ i.contains key = true) ∧
    (∀ r ∈ i.records, r.identifiers.Pairwise Identifier.Before ∧
      ∀ id, (id ∈ r.identifiers ↔ i.Carries r.key id) ∧
        (id ∈ r.identifiers ↔ i.Lists id r.key)) ∧
    stats.identifiers = (i.records.flatMap Record.identifiers).toFinset.card ∧
    stats.live = i.records.countP (fun r => (s.reported? r.key).isSome) ∧
    ∀ t : Session, t.Reachable → ∀ r : Record,
      (∀ id, t.resolver.index.Carries r.key id ↔ i.Carries r.key id) →
        (r ∈ t.resolver.index.records ↔ r ∈ i.records) := by
  intro i stats
  have hi : i.Sound := h.sound.index
  refine ⟨⟨rfl, hi.length_records.symm, i.size_eq_countKind⟩,
    ⟨hi.countKind_eq _, hi.countKind_eq _, hi.countKind_eq _⟩,
    ⟨hi.nodup_keys, hi.mem_keys_records⟩,
    fun r hr => ⟨hi.identifiers_increasing hr, fun id => ?_⟩, ?_, hi.countP_values_eq s.owners,
    fun t ht r hc => hi.mem_records_congr ht.sound.index hc⟩
  · rw [hi.lists_iff_carries, hi.mem_identifiers hr]
    exact ⟨Iff.rfl, Iff.rfl⟩
  · rw [← hi.tracked_eq, Index.card_tracked]
    rfl

/-- The office as a record of the clerk and its only object, the desk, make it. -/
def staffedOffice : Session :=
  after {} {} {} [.register [desk], .unregister [desk], .insertRecord ⟨clerk.key, [sharedMail]⟩,
    .register [desk], .ownersBecome { held := [desk] }]

/-- Two records, of which one is of an object that is held, have two identifiers between them; and the
clerk has the same record in either office. -/
theorem stats_records_office :
    staffedOffice.Reachable ∧ office.Reachable ∧
      staffedOffice.resolver.index.stats staffedOffice.owners = ⟨2, 1, 0, 1, 2, 1⟩ ∧
      staffedOffice.resolver.index.records.length = 2 ∧
      (staffedOffice.resolver.index.records.flatMap Record.identifiers).toFinset.card = 2 ∧
      (staffedOffice.resolver.index.records.countP fun r =>
        (staffedOffice.reported? r.key).isSome) = 1 ∧
      ∀ ids, ⟨clerk.key, ids⟩ ∈ office.resolver.index.records ↔
        ⟨clerk.key, ids⟩ ∈ staffedOffice.resolver.index.records := by
  have hr : staffedOffice.Reachable := reachable_after _ _ _ _
  have hro : office.Reachable := reachable_after _ _ _ _
  have hstats : staffedOffice.resolver.index.stats staffedOffice.owners = ⟨2, 1, 0, 1, 2, 1⟩ := by
    decide +kernel
  have hids : ((office.resolver.index.get? clerk.key).map fun e => e.identifiers.toList) =
      (staffedOffice.resolver.index.get? clerk.key).map fun e => e.identifiers.toList := by
    decide +kernel
  obtain ⟨⟨hentities, hsize, -⟩, -, -, -, hidentifiers, hlive, hsame⟩ := stats_records hr
  rw [hstats] at hentities hidentifiers hlive
  refine ⟨hr, hro, hstats, (hentities.trans hsize).symm, hidentifiers.symm, hlive.symm, fun ids =>
    hsame office hro ⟨clerk.key, ids⟩ fun id => ?_⟩
  rw [Index.carries_iff_toList, Index.carries_iff_toList, hids]

end Session

end EntityResolution
