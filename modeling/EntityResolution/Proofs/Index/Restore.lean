import EntityResolution.Proofs.Index.Batch
import EntityResolution.Proofs.Index.Scan

/-!
# An index and its records

The records of a sound index say everything about it but the links: each entry is one record, with
its identifiers in order (`mem_records`).  Merging records adds, for each, the pairs of its key
with its identifiers (`carries_insertRecords`).  So the records of an index, merged into an empty
one, give an index that carries the same (`carries_insertRecords_records`); and sound indexes that
carry the same answer the same questions alike (`sameContent_of_carries`).
-/

namespace EntityResolution

namespace Identifier

theorem mem_sort {ids : List Identifier} {id : Identifier} : id ∈ sort ids ↔ id ∈ ids :=
  (List.mergeSort_perm ids _).mem_iff

theorem sort_pairwise (ids : List Identifier) :
    (sort ids).Pairwise fun a b => (compare a b).isLE = true := by
  refine List.pairwise_mergeSort (fun _ _ _ => Std.TransCmp.isLE_trans) (fun a b => ?_) ids
  cases h : (compare a b).isLE with
  | true => rfl
  | false =>
      have hlt : compare b a = .lt := Std.OrientedCmp.lt_of_not_isLE (by rw [h]; decide)
      rw [hlt]
      rfl

theorem sort_increasing {ids : List Identifier} (h : ids.Nodup) :
    (sort ids).Pairwise fun a b => compare a b = .lt := by
  have hnodup : (sort ids).Nodup := (List.mergeSort_perm ids _).nodup_iff.mpr h
  refine (sort_pairwise ids).imp₂ (fun a b hle hne => ?_) hnodup
  cases hc : compare a b with
  | lt => rfl
  | eq => exact absurd (Std.LawfulEqCmp.compare_eq_iff_eq.mp hc) hne
  | gt =>
      rw [hc] at hle
      cases hle

/-- Sorting forgets in which order the identifiers came. -/
theorem sort_eq_of_perm {ids ids' : List Identifier} (h : ids.Perm ids') : sort ids = sort ids' :=
  List.Perm.eq_of_pairwise
    (fun a b _ _ hab hba => Std.LawfulEqCmp.compare_eq_iff_eq.mp
      (Std.OrientedCmp.isLE_antisymm hab hba : compare a b = .eq))
    (sort_pairwise ids) (sort_pairwise ids')
    ((List.mergeSort_perm ids _).trans (h.trans (List.mergeSort_perm ids' _).symm))

end Identifier

/-! ### The record of an entry -/

namespace Entry

theorem Sound.isValid {e : Entry} (h : e.Sound) {id : Identifier}
    (hid : id ∈ e.identifiers.toList) : id.isValid = true := by
  simpa [Identifier.isValid] using h.valid id (SmallSet.mem_toList.mp hid)

theorem Sound.filter_isValid {e : Entry} (h : e.Sound) :
    e.identifiers.toList.filter Identifier.isValid = e.identifiers.toList :=
  List.filter_eq_self.mpr fun _ hid => h.isValid hid

theorem Sound.hasValid {e : Entry} (h : e.Sound) : e.hasValid = true := by
  obtain ⟨id, hid⟩ := SmallSet.isEmpty_eq_false_iff.mp h.inhabited
  have hid' := SmallSet.mem_toList.mpr hid
  exact List.any_eq_true.mpr ⟨id, hid', h.isValid hid'⟩

theorem Sound.mem_sortedValid {e : Entry} (h : e.Sound) {id : Identifier} :
    id ∈ e.sortedValid ↔ id ∈ e.identifiers := by
  rw [sortedValid, h.filter_isValid, Identifier.mem_sort, SmallSet.mem_toList]

theorem Sound.sortedValid_increasing {e : Entry} (h : e.Sound) :
    e.sortedValid.Pairwise fun a b => compare a b = .lt :=
  Identifier.sort_increasing ((SmallSet.nodup_toList h.wellFormed).filter _)

/-- The sorted identifiers hang on the members only. -/
theorem Sound.sortedValid_eq {e e' : Entry} (h : e.Sound) (h' : e'.Sound)
    (hm : ∀ id, id ∈ e'.identifiers ↔ id ∈ e.identifiers) : e'.sortedValid = e.sortedValid := by
  rw [sortedValid, sortedValid, h.filter_isValid, h'.filter_isValid]
  refine Identifier.sort_eq_of_perm ((List.perm_ext_iff_of_nodup
    (SmallSet.nodup_toList h'.wellFormed) (SmallSet.nodup_toList h.wellFormed)).mpr fun id => ?_)
  rw [SmallSet.mem_toList, SmallSet.mem_toList, hm]

end Entry

namespace Index

/-! ### The records of an index -/

theorem Sound.records_eq {i : Index} (h : i.Sound) :
    i.records = i.entries.toList.map fun x => ⟨x.1, x.2.sortedValid⟩ := by
  have hall : (i.entries.toList.filter fun x => x.2.hasValid) = i.entries.toList :=
    List.filter_eq_self.mpr fun x hx =>
      (h.entry (Std.TreeMap.mem_toList_iff_getElem?_eq_some.mp hx)).hasValid
  rw [← hall]
  rfl

/-- **Each entry is one record.** -/
theorem Sound.length_records {i : Index} (h : i.Sound) : i.records.length = i.size := by
  rw [h.records_eq, List.length_map, Std.TreeMap.length_toList, size]

theorem Sound.mem_records {i : Index} (h : i.Sound) {r : Record} :
    r ∈ i.records ↔ ∃ e, i.get? r.key = some e ∧ r.identifiers = e.sortedValid := by
  rw [h.records_eq, List.mem_map]
  constructor
  · rintro ⟨x, hx, rfl⟩
    exact ⟨x.2, Std.TreeMap.mem_toList_iff_getElem?_eq_some.mp hx, rfl⟩
  · rintro ⟨e, he, hids⟩
    refine ⟨(r.key, e), Std.TreeMap.mem_toList_iff_getElem?_eq_some.mpr he, ?_⟩
    rw [← hids]

/-- The keys of the records are those of the entries, in the same order. -/
theorem Sound.map_key_records {i : Index} (h : i.Sound) :
    i.records.map Record.key = i.entries.keys := by
  rw [h.records_eq, List.map_map]
  exact Std.TreeMap.map_fst_toList_eq_keys

/-- No two records have the same key. -/
theorem Sound.nodup_keys {i : Index} (h : i.Sound) : (i.records.map Record.key).Nodup :=
  h.map_key_records ▸ Std.TreeMap.nodup_keys

theorem Sound.nodup_records {i : Index} (h : i.Sound) : i.records.Nodup :=
  .of_map Record.key h.nodup_keys

/-- A record lists what its key carries. -/
theorem Sound.mem_identifiers {i : Index} (h : i.Sound) {r : Record} (hr : r ∈ i.records)
    {id : Identifier} : id ∈ r.identifiers ↔ i.Carries r.key id := by
  obtain ⟨e, he, hids⟩ := h.mem_records.mp hr
  rw [hids, (h.entry he).mem_sortedValid]
  simp [Carries, he]

/-- The identifiers of a record that can be indexed are those that its entry holds. -/
theorem Sound.carries_iff_records {i : Index} (h : i.Sound) (key : Key) (id : Identifier) :
    (∃ r ∈ i.records, r.key = key ∧ id ∈ r.validIdentifiers) ↔ i.Carries key id := by
  constructor
  · rintro ⟨r, hr, rfl, hid⟩
    exact (h.mem_identifiers hr).mp (List.mem_filter.mp hid).1
  · rintro ⟨e, he, hid⟩
    have hs := (h.entry he).mem_sortedValid.mpr hid
    refine ⟨⟨key, e.sortedValid⟩, h.mem_records.mpr ⟨e, he, rfl⟩, rfl, List.mem_filter.mpr ⟨hs, ?_⟩⟩
    simpa [Identifier.isValid] using (h.entry he).valid id hid

/-- No identifier of a record is left out when the record is stored. -/
theorem Sound.validIdentifiers_eq {i : Index} (h : i.Sound) {r : Record} (hr : r ∈ i.records) :
    r.validIdentifiers = r.identifiers ∧ r.validIdentifiers ≠ [] := by
  obtain ⟨e, he, hids⟩ := h.mem_records.mp hr
  have he' := h.entry he
  have hv : ∀ id ∈ r.identifiers, id.isValid = true := by
    intro id hid
    rw [hids] at hid
    simpa [Identifier.isValid] using he'.valid id (he'.mem_sortedValid.mp hid)
  have heq : r.validIdentifiers = r.identifiers := List.filter_eq_self.mpr hv
  refine ⟨heq, ?_⟩
  obtain ⟨id, hid⟩ := SmallSet.isEmpty_eq_false_iff.mp he'.inhabited
  rw [heq, hids]
  exact List.ne_nil_of_mem (he'.mem_sortedValid.mpr hid)

/-! ### Merging records -/

theorem insertRecord_fst (i : Index) (r : Record) :
    (i.insertRecord r).1 = !r.validIdentifiers.isEmpty := by
  rw [insertRecord]
  split
  · next h => rw [h]; rfl
  · next h => rw [Bool.eq_false_iff.mpr h]; rfl

theorem carries_insertRecord {i : Index} (h : i.Sound) (r : Record) (key : Key)
    (id : Identifier) :
    (i.insertRecord r).2.Carries key id ↔
      r.key = key ∧ id ∈ r.validIdentifiers ∨ i.Carries key id := by
  by_cases hv : r.validIdentifiers = []
  · rw [insertRecord_of_nil hv, hv]
    simp
  · obtain ⟨j, e, hj, hr, -, hm, -⟩ := insertRecord_replaced h hv
    rw [hj, hr.carries]
    split
    · next hk =>
      subst hk
      simp [hm]
    · next hk => simp [hk]

/-- A merged record leaves every link as it is; an entry made for it has none. -/
theorem link?_insertRecord {i : Index} (h : i.Sound) (r : Record) (key : Key) :
    (i.insertRecord r).2.link? key = i.link? key := by
  by_cases hv : r.validIdentifiers = []
  · rw [insertRecord_of_nil hv]
  · obtain ⟨j, e, hj, hr, -, -, hl⟩ := insertRecord_replaced h hv
    rw [hj, link?, hr.get?_eq]
    split
    · next hk =>
      subst hk
      exact hl
    · rfl

/-- A merging that has skipped some records already. -/
theorem foldl_insertRecord (records : List Record) (skipped : Nat) (i : Index) :
    records.foldl (fun (p : Nat × Index) r =>
      (p.1 + (!(p.2.insertRecord r).1).toNat, (p.2.insertRecord r).2)) (skipped, i) =
        (skipped + (i.insertRecords records).1, (i.insertRecords records).2) := by
  induction records generalizing skipped i with
  | nil => rfl
  | cons r records ih =>
      rw [List.foldl_cons, ih, show i.insertRecords (r :: records) = records.foldl
        (fun (p : Nat × Index) r => (p.1 + (!(p.2.insertRecord r).1).toNat, (p.2.insertRecord r).2))
        (0 + (!(i.insertRecord r).1).toNat, (i.insertRecord r).2) from rfl, ih, Nat.zero_add,
        Nat.add_assoc]

/-- The records after the first are merged into what the first one makes. -/
theorem insertRecords_cons (i : Index) (r : Record) (records : List Record) :
    i.insertRecords (r :: records) =
      ((!(i.insertRecord r).1).toNat + ((i.insertRecord r).2.insertRecords records).1,
        ((i.insertRecord r).2.insertRecords records).2) := by
  rw [← foldl_insertRecord, ← Nat.zero_add (!(i.insertRecord r).1).toNat]
  rfl

/-- **Merging records adds their pairs.** -/
theorem carries_insertRecords {i : Index} (h : i.Sound) (records : List Record) (key : Key)
    (id : Identifier) :
    (i.insertRecords records).2.Carries key id ↔
      (∃ r ∈ records, r.key = key ∧ id ∈ r.validIdentifiers) ∨ i.Carries key id := by
  induction records generalizing i with
  | nil => simp [insertRecords]
  | cons r records ih =>
      rw [insertRecords_cons, ih (insertRecord_sound h r), carries_insertRecord h]
      simp only [List.mem_cons, exists_eq_or_imp]
      rw [or_assoc, or_left_comm]

theorem link?_insertRecords {i : Index} (h : i.Sound) (records : List Record) (key : Key) :
    (i.insertRecords records).2.link? key = i.link? key := by
  induction records generalizing i with
  | nil => rfl
  | cons r records ih =>
      rw [insertRecords_cons, ih (insertRecord_sound h r), link?_insertRecord h]

theorem insertRecords_fst (i : Index) (records : List Record) :
    (i.insertRecords records).1 = records.countP fun r => r.validIdentifiers.isEmpty := by
  induction records generalizing i with
  | nil => rfl
  | cons r records ih =>
      rw [insertRecords_cons, ih, insertRecord_fst, List.countP_cons, Nat.add_comm]
      cases r.validIdentifiers.isEmpty <;> rfl

/-- Every record is skipped, or has an identifier that can be indexed. -/
theorem insertRecords_fst_add (i : Index) (records : List Record) :
    (i.insertRecords records).1 + (records.countP fun r => !r.validIdentifiers.isEmpty) =
      records.length := by
  rw [insertRecords_fst]
  simpa only [Bool.not_eq_true, Bool.decide_eq_false] using
    (List.length_eq_countP_add_countP (l := records) fun r => r.validIdentifiers.isEmpty).symm

/-- **The records of an index, merged into an empty one.**  None is skipped, and the new index
carries what the old one does. -/
theorem Sound.insertRecords_records {i : Index} (h : i.Sound) :
    (empty.insertRecords i.records).1 = 0 ∧
      ∀ key id, (empty.insertRecords i.records).2.Carries key id ↔ i.Carries key id := by
  constructor
  · rw [insertRecords_fst, List.countP_eq_zero]
    intro r hr
    simpa using (h.validIdentifiers_eq hr).2
  · intro key id
    rw [carries_insertRecords sound_empty, h.carries_iff_records]
    simp [Carries, get?_empty]

/-! ### Indexes that carry the same -/

/-- `j` has the keys, the identifiers and the buckets of `i`, and answers alike what is asked of a
key, of an identifier and of all entries.  The links may differ. -/
structure SameContent (i j : Index) : Prop where
  contains : ∀ key, j.contains key = i.contains key
  carries : ∀ key id, j.Carries key id ↔ i.Carries key id
  lists : ∀ id key, j.Lists id key ↔ i.Lists id key
  tracked : ∀ id, (j.candidates? id).isSome = (i.candidates? id).isSome
  find? : ∀ id, j.find? id = i.find? id
  identifiers : ∀ key, (j.get? key).map Entry.sortedValid = (i.get? key).map Entry.sortedValid
  records : j.records.Perm i.records

/-- A key is indexed if its entry carries an identifier. -/
theorem Sound.contains_iff {i : Index} (h : i.Sound) (key : Key) :
    i.contains key = true ↔ ∃ id, i.Carries key id := by
  constructor
  · intro hc
    rw [contains_eq_isSome] at hc
    obtain ⟨e, he⟩ := Option.isSome_iff_exists.mp hc
    obtain ⟨id, hid⟩ := SmallSet.isEmpty_eq_false_iff.mp (h.entry_inhabited key e he)
    exact ⟨id, e, he, hid⟩
  · rintro ⟨id, hc⟩
    exact contains_of_carries hc

/-- A key is indexed in both of two indexes that have the same for it, or in neither. -/
theorem Sound.contains_congr {i j : Index} (hi : i.Sound) (hj : j.Sound) {key : Key}
    (h : ∀ id, j.Carries key id ↔ i.Carries key id) : j.contains key = i.contains key := by
  rw [Bool.eq_iff_iff, hj.contains_iff, hi.contains_iff]
  exact exists_congr h

theorem Sound.sortedValid_congr {i j : Index} (hi : i.Sound) (hj : j.Sound) {key : Key}
    (h : ∀ id, j.Carries key id ↔ i.Carries key id) :
    (j.get? key).map Entry.sortedValid = (i.get? key).map Entry.sortedValid := by
  have hc := hi.contains_congr hj h
  rw [contains_eq_isSome, contains_eq_isSome] at hc
  cases he : i.get? key with
  | none =>
      rw [he, Option.isSome_none, Option.isSome_eq_false_iff, Option.isNone_iff_eq_none] at hc
      rw [hc]
  | some e =>
      rw [he, Option.isSome_some] at hc
      obtain ⟨e', he'⟩ := Option.isSome_iff_exists.mp hc
      rw [he', Option.map_some, Option.map_some, (hi.entry he).sortedValid_eq (hj.entry he')]
      intro id
      simpa [Carries, he, he'] using h id

/-- **A record hangs on what its key carries**, and on nothing else of the index. -/
theorem Sound.mem_records_congr {i j : Index} (hi : i.Sound) (hj : j.Sound) {r : Record}
    (h : ∀ id, j.Carries r.key id ↔ i.Carries r.key id) : r ∈ j.records ↔ r ∈ i.records := by
  -- whether a record is there can be told from the sorted identifiers of its key
  have hmem : ∀ {l : Index}, l.Sound →
      (r ∈ l.records ↔ (l.get? r.key).map Entry.sortedValid = some r.identifiers) := by
    intro l hl
    rw [hl.mem_records, Option.map_eq_some_iff]
    simp only [eq_comm (a := r.identifiers)]
  rw [hmem hj, hmem hi, hi.sortedValid_congr hj h]

/-- **Sound indexes that carry the same have the same content.** -/
theorem sameContent_of_carries {i j : Index} (hi : i.Sound) (hj : j.Sound)
    (h : ∀ key id, j.Carries key id ↔ i.Carries key id) : SameContent i j where
  contains key := hi.contains_congr hj (h key)
  carries := h
  lists id key := by rw [hj.lists_iff_carries, hi.lists_iff_carries, h]
  tracked id := by
    rw [Bool.eq_iff_iff, hj.isSome_candidates?_iff, hi.isSome_candidates?_iff]
    exact exists_congr fun key => h key id
  find? id := by
    have hc : j.contains = i.contains := funext fun key => hi.contains_congr hj (h key)
    rw [Index.find?, Index.find?, hc]
  identifiers key := hi.sortedValid_congr hj (h key)
  records := (List.perm_ext_iff_of_nodup hj.nodup_records hi.nodup_records).mpr fun r =>
    hi.mem_records_congr hj (h r.key)

theorem SameContent.idsOf {i j : Index} (h : SameContent i j) (key : Key) :
    j.idsOf key = i.idsOf key := by
  ext id
  rw [mem_idsOf, mem_idsOf, h.carries]

end Index

end EntityResolution
