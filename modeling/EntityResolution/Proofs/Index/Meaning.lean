import EntityResolution.Proofs.Index.Counts
import EntityResolution.Proofs.Index.Restore

/-!
# What records mean

Records may repeat a key, and each repeat identifiers or hold some that cannot be indexed.  What
they mean is the identifiers that can be, for each key those of all its records together (`meaning`).
Merging records unites what the entries hold with that (`Sound.idsOf_insertRecords`).  In an empty
index they leave just their meaning: an entry is made for each key that the records say something of
(`size_insertRecords`), and the records of the index mean what those merged did
(`meaning_records_insertRecords`).
-/

namespace EntityResolution

/-- The identifiers that records add to the entry of a key. -/
def identifiersFor (key : Key) (records : List Record) : List Identifier :=
  (records.filter fun record => record.key = key).flatMap Record.validIdentifiers

theorem mem_identifiersFor {key : Key} {records : List Record} {id : Identifier} :
    id ∈ identifiersFor key records ↔
      ∃ record ∈ records, record.key = key ∧ id ∈ record.validIdentifiers := by
  simp [identifiersFor, and_assoc]

/-- What records say of a key: all identifiers with a value that any record of the key has. -/
def meaning (records : List Record) (key : Key) : Finset Identifier :=
  (identifiersFor key records).toFinset

/-- The keys that records say something of. -/
def keysMeant (records : List Record) : Finset Key :=
  (records.map Record.key).toFinset.filter fun key => (meaning records key).Nonempty

theorem mem_meaning {records : List Record} {key : Key} {id : Identifier} :
    id ∈ meaning records key ↔
      ∃ record ∈ records, record.key = key ∧ id ∈ record.validIdentifiers := by
  rw [meaning, List.mem_toFinset, mem_identifiersFor]

theorem mem_keysMeant {records : List Record} {key : Key} :
    key ∈ keysMeant records ↔ (meaning records key).Nonempty := by
  rw [keysMeant, Finset.mem_filter, List.mem_toFinset]
  refine and_iff_right_of_imp fun ⟨id, hid⟩ => ?_
  obtain ⟨record, hr, rfl, -⟩ := mem_meaning.mp hid
  exact List.mem_map_of_mem hr

/-- Each key that records say something of has a record that says something. -/
theorem card_keysMeant_le (records : List Record) :
    (keysMeant records).card ≤ records.countP fun r => !r.validIdentifiers.isEmpty := by
  have hsub : keysMeant records ⊆
      ((records.filter fun r => !r.validIdentifiers.isEmpty).map Record.key).toFinset := by
    intro key hk
    obtain ⟨id, hid⟩ := mem_keysMeant.mp hk
    obtain ⟨record, hr, rfl, hv⟩ := mem_meaning.mp hid
    refine List.mem_toFinset.mpr (List.mem_map_of_mem (List.mem_filter.mpr ⟨hr, ?_⟩))
    simpa using List.ne_nil_of_mem hv
  calc (keysMeant records).card
      ≤ _ := Finset.card_le_card hsub
    _ ≤ ((records.filter fun r => !r.validIdentifiers.isEmpty).map Record.key).length :=
        List.toFinset_card_le _
    _ = records.countP fun r => !r.validIdentifiers.isEmpty := by
        rw [List.length_map, List.countP_eq_length_filter]

namespace Index

/-- The records of an index mean what its entries hold. -/
theorem Sound.meaning_records {i : Index} (h : i.Sound) (key : Key) :
    meaning i.records key = i.idsOf key := by
  ext id
  rw [mem_meaning, mem_idsOf, h.carries_iff_records]

theorem isEmpty_eq (i : Index) : i.isEmpty = (i.size == 0) := Std.TreeMap.isEmpty_eq_size_eq_zero

/-- An index has an entry for each key that its entries hold something for. -/
theorem Sound.size_eq_card {i : Index} (h : i.Sound) {keys : Finset Key}
    (hk : ∀ key, key ∈ keys ↔ (i.idsOf key).Nonempty) : i.size = keys.card := by
  have hkeys : i.indexed = keys := by
    ext key
    rw [mem_indexed, hk]
    exact (h.contains_iff key).trans (exists_congr fun id => mem_idsOf.symm)
  rw [← hkeys, card_indexed]

/-- **Merging is a union** of what entries hold with what the records mean. -/
theorem Sound.idsOf_insertRecords {i : Index} (h : i.Sound) (records : List Record) (key : Key) :
    (i.insertRecords records).2.idsOf key = i.idsOf key ∪ meaning records key := by
  ext id
  rw [mem_idsOf, carries_insertRecords h, Finset.mem_union, mem_idsOf, mem_meaning, or_comm]

/-- **Merging keeps the meaning.** -/
theorem idsOf_insertRecords (records : List Record) (key : Key) :
    (empty.insertRecords records).2.idsOf key = meaning records key := by
  rw [sound_empty.idsOf_insertRecords, idsOf, get?_empty]
  exact Finset.empty_union _

theorem size_insertRecords (records : List Record) :
    (empty.insertRecords records).2.size = (keysMeant records).card :=
  (insertRecords_sound sound_empty records).size_eq_card fun key => by
    rw [mem_keysMeant, idsOf_insertRecords]

theorem meaning_records_insertRecords (records : List Record) :
    meaning (empty.insertRecords records).2.records = meaning records := by
  funext key
  rw [(insertRecords_sound sound_empty records).meaning_records, idsOf_insertRecords]

end Index

end EntityResolution
