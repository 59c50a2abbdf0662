import EntityResolution.Proofs.Index.Meaning
import EntityResolution.Proofs.Session.Changes

/-!
# Merging records in a session

Records that are merged one after the other are united with what is indexed: the entry of a key then
holds what it held before, and what the records mean for the key (`Sound.idsOf_insertRecords`).  A
union does not depend on the order of its parts, nor on how often each comes, and so neither does
merging (`merge_unites`).
-/

namespace EntityResolution

namespace Index

/-- No entry is without identifiers. -/
theorem Sound.get?_eq_none_iff {i : Index} (h : i.Sound) (key : Key) :
    i.get? key = none ↔ i.idsOf key = ∅ := by
  rw [← Option.not_isSome_iff_eq_none, ← contains_eq_isSome, h.contains_iff,
    Finset.eq_empty_iff_forall_notMem]
  simp only [not_exists, mem_idsOf]

/-- No bucket is without keys. -/
theorem Sound.candidates?_eq_none_iff {i : Index} (h : i.Sound) (id : Identifier) :
    i.candidates? id = none ↔ ∀ key, id ∉ i.idsOf key := by
  rw [← Option.not_isSome_iff_eq_none, h.isSome_candidates?_iff]
  simp only [not_exists, mem_idsOf]

theorem insertRecord_fst_iff (i : Index) (r : Record) :
    (i.insertRecord r).1 = true ↔ ∃ id ∈ r.identifiers, id.isValid = true := by
  rw [insertRecord_fst]
  simp [Record.validIdentifiers]

end Index

namespace Session

/-- Records that come one after the other are merged in one go. -/
theorem run_insertRecords {s : Session} (h : s.Sound) (records : List Record) :
    s.run (records.map .insertRecord) =
      .ok { s with resolver :=
        { s.resolver with index := (s.resolver.index.insertRecords records).2 } } := by
  induction records generalizing s with
  | nil => rfl
  | cons record records ih =>
      have hstep : s.step (.insertRecord record) = .ok { s with resolver :=
          { s.resolver with index := (s.resolver.index.insertRecord record).2 } } :=
        change_ok h rfl
      have hs : Sound { s with resolver :=
          { s.resolver with index := (s.resolver.index.insertRecord record).2 } } :=
        ⟨Index.insertRecord_sound h.index record, h.unlocked⟩
      rw [List.map_cons, run, List.foldlM_cons, hstep, Index.insertRecords_cons]
      exact ih hs

/-- **Merging records one by one unites them with the index.**  Afterwards the entry of a key holds
what it held before and all identifiers with a value that any record of the key has.  There is none
if that is nothing, the buckets list the same pairs, and the links are those before.  So records
that are the same in another order, or repeated, leave an index that cannot be told from this one;
and a record counts as merged if one of its identifiers has a value. -/
theorem merge_unites {s : Session} (h : s.Reachable) (records : List Record) :
    ∃ j, s.run (records.map .insertRecord) =
        .ok { s with resolver := { s.resolver with index := j } } ∧
      (∀ key, j.idsOf key = s.resolver.index.idsOf key ∪ meaning records key ∧
        (j.get? key = none ↔ s.resolver.index.idsOf key ∪ meaning records key = ∅) ∧
        (∀ id, j.Lists id key ↔ id ∈ s.resolver.index.idsOf key ∪ meaning records key) ∧
        j.link? key = s.resolver.index.link? key) ∧
      (∀ id, j.candidates? id = none ↔
        ∀ key, id ∉ s.resolver.index.idsOf key ∪ meaning records key) ∧
      (∀ others : List Record, (∀ record, record ∈ others ↔ record ∈ records) →
        ∃ l, s.run (others.map .insertRecord) =
            .ok { s with resolver := { s.resolver with index := l } } ∧ j.Alike l) ∧
      ∀ (i : Index) (record : Record),
        (i.insertRecord record).1 = true ↔ ∃ id ∈ record.identifiers, id.isValid = true := by
  have hi := h.sound.index
  have hj := Index.insertRecords_sound hi records
  have hids := hi.idsOf_insertRecords records
  refine ⟨_, run_insertRecords h.sound records, fun key => ⟨hids key, ?_, fun id => ?_, ?_⟩,
    fun id => ?_, fun others hsame => ⟨_, run_insertRecords h.sound others, ?_⟩,
    Index.insertRecord_fst_iff⟩
  · rw [hj.get?_eq_none_iff, hids]
  · rw [hj.lists_iff_carries, ← Index.mem_idsOf, hids]
  · exact Index.link?_insertRecords hi records key
  · rw [hj.candidates?_eq_none_iff]
    simp only [hids]
  · refine Index.alike_of_carries hj (Index.insertRecords_sound hi others) (fun key id => ?_)
      fun key => ?_
    · simp only [Index.carries_insertRecords hi, hsame]
    · rw [Index.link?_insertRecords hi, Index.link?_insertRecords hi]

/-- A record of the clerk that names the desk's telephone, twice. -/
def phoneRecord : Record := ⟨clerk.key, [deskPhone, deskPhone]⟩

/-- A record of the porter that has nothing to index. -/
def silentRecord : Record := ⟨porter.key, [⟨"contact", "phone", "", none⟩]⟩

/-- The clerk is in use and has shared the mail address with the desk; now he shares the telephone
too, and nothing is known of the porter.  The order does not matter, nor that the record comes
twice. -/
theorem merge_unites_office :
    office.Reachable ∧
      ∃ j l, office.run ([phoneRecord, silentRecord].map .insertRecord) =
          .ok { office with resolver := { office.resolver with index := j } } ∧
        j.idsOf clerk.key = {sharedMail, deskPhone} ∧ j.link? clerk.key = some clerk ∧
        j.Lists deskPhone clerk.key ∧ j.get? porter.key = none ∧
        office.run ([silentRecord, phoneRecord, phoneRecord].map .insertRecord) =
          .ok { office with resolver := { office.resolver with index := l } } ∧ j.Alike l := by
  have hr : office.Reachable := reachable_after _ _ _ _
  have hclerk : office.resolver.index.idsOf clerk.key = {sharedMail} := by decide +kernel
  have hporter : office.resolver.index.idsOf porter.key = ∅ := by decide +kernel
  have hlink : office.resolver.index.link? clerk.key = some clerk := by decide +kernel
  have hphone : meaning [phoneRecord, silentRecord] clerk.key = {deskPhone} := by decide +kernel
  have hsilent : meaning [phoneRecord, silentRecord] porter.key = ∅ := by decide +kernel
  obtain ⟨j, hj, hkeys, -, hothers, -⟩ := merge_unites hr [phoneRecord, silentRecord]
  obtain ⟨l, hl, halike⟩ := hothers [silentRecord, phoneRecord, phoneRecord] (by simp [or_comm])
  obtain ⟨hids, -, hlists, hlink'⟩ := hkeys clerk.key
  obtain ⟨-, hnone, -, -⟩ := hkeys porter.key
  rw [hclerk, hphone] at hids hlists
  exact ⟨hr, j, l, hj, hids, hlink'.trans hlink, (hlists deskPhone).mpr (by simp),
    hnone.mpr (by rw [hporter, hsilent, Finset.union_empty]), hl, halike⟩

end Session

end EntityResolution
