import EntityResolution.Proofs.Index.Restore
import EntityResolution.Proofs.Session.Answers
import EntityResolution.Proofs.Store.RoundTrip

/-!
# Writing an index and reading it again

In every state that a session reaches, the index is written entry by entry, and a fresh resolver
that reads the file gets an index of the same content, which answers alike (`write_read_cache`).
The records of the index are stored as they are, since each has an identifier and all of these have
a value; that is what makes the counts agree.
-/

namespace EntityResolution

namespace Resolver

/-- `r'` answers as `r` does, up to what stands behind a match, and to the choice among matches of
the same relevance that the limit cuts through. -/
structure AnswersAlike (r r' : Resolver) : Prop where
  content : r.index.SameContent r'.index
  identifiersOf : ∀ key, r'.identifiersOf key = r.identifiersOf key
  resolve : ∀ owners owners' limit ids, 1 ≤ limit → ids ≠ [] →
    ∃ candidates r₁ owners₁ candidates' r₁' owners₁',
      r.resolve owners limit ids = .ok (candidates, r₁, owners₁) ∧
        r'.resolve owners' limit ids = .ok (candidates', r₁', owners₁') ∧
        r.index.AlikeUpToTies limit ids.toFinset (candidates.map Candidate.ranked)
          (candidates'.map Candidate.ranked)

/-- Resolvers with sound indexes that carry the same answer alike. -/
theorem answersAlike_of_carries {r r' : Resolver} (h : r.index.Sound) (h' : r'.index.Sound)
    (hp : r.poisoned = false) (hp' : r'.poisoned = false)
    (hc : ∀ key id, r'.index.Carries key id ↔ r.index.Carries key id) : AnswersAlike r r' := by
  have hsame := Index.sameContent_of_carries h h' hc
  refine ⟨hsame, fun key => ?_, fun owners owners' limit ids hl hids => ?_⟩
  · simp only [identifiersOf, lock, hp, hp', Bool.false_eq_true, if_false, bind, Except.bind]
    rw [hsame.identifiers key]
  · obtain ⟨candidates, j, owners₁, hres, -, hrank⟩ := resolve_ok h hp owners hl hids
    obtain ⟨candidates', j', owners₁', hres', -, hrank'⟩ := resolve_ok h' hp' owners' hl hids
    obtain ⟨answer, answer', ha, ha', halike⟩ := Index.rank_alike h h' hsame.idsOf limit ids
    obtain rfl := Except.ok.inj (hrank.symm.trans ha)
    obtain rfl := Except.ok.inj (hrank'.symm.trans ha')
    exact ⟨candidates, _, owners₁, candidates', _, owners₁', hres, hres', halike⟩

theorem writeCache_atPath {r : Resolver} {path : Path} (hs : r.store = some (.atPath path))
    (hp : r.poisoned = false) (files : FileTree) :
    r.writeCache files = if r.index.isEmpty then (.ok 0, files)
      else (Store.atPath path).write files r.index.records := by
  simp only [writeCache, hs, lock, hp]
  rfl

/-- Reading merges the records of the file that come before the first fault. -/
theorem readCache_atPath {r : Resolver} {path : Path} (hs : r.store = some (.atPath path))
    (hp : r.poisoned = false) (files : FileTree) :
    r.readCache files =
      (((Store.atPath path).read files).outcome.map
          (· - (r.index.insertRecords ((Store.atPath path).read files).records).1),
        { r with
          index := (r.index.insertRecords ((Store.atPath path).read files).records).2 }) := by
  simp only [readCache, hs, lock, hp]
  rfl

/-- If there is no fault, the records are counted that can be indexed. -/
theorem readCache_ok {r : Resolver} {path : Path} (hs : r.store = some (.atPath path))
    (hp : r.poisoned = false) {files : FileTree} {records : List Record}
    (hread : (Store.atPath path).read files = ⟨records, .ok records.length⟩) :
    r.readCache files =
      (.ok (records.countP fun x => !x.validIdentifiers.isEmpty),
        { r with index := (r.index.insertRecords records).2 }) := by
  have hlen := r.index.insertRecords_fst_add records
  rw [readCache_atPath hs hp, hread]
  simp only [Except.map]
  congr 2
  omega

/-- A fresh resolver merges the records of its file into an empty index. -/
theorem readCache_fresh {r : Resolver} {path : Path} (hs : r.store = some (.atPath path))
    {files : FileTree} {records : List Record}
    (hread : (Store.atPath path).read files = ⟨records, .ok records.length⟩) :
    r.fresh.readCache files =
      (.ok (records.countP fun x => !x.validIdentifiers.isEmpty),
        { r.fresh with index := (Index.empty.insertRecords records).2 }) :=
  readCache_ok (r := r.fresh) hs rfl hread

/-- A fresh resolver that reads the records of an index reads them all. -/
theorem readCache_records {i : Index} (h : i.Sound) {r : Resolver} {path : Path}
    (hs : r.store = some (.atPath path)) {files : FileTree}
    (hread : (Store.atPath path).read files = ⟨i.records, .ok i.records.length⟩) :
    r.fresh.readCache files =
      (.ok i.records.length,
        { r.fresh with index := (Index.empty.insertRecords i.records).2 }) := by
  rw [readCache_fresh hs hread, List.countP_eq_length.mpr]
  intro x hx
  simpa using (h.validIdentifiers_eq hx).2

end Resolver

namespace Index

/-- The records of a sound index are stored as they are. -/
theorem Sound.map_stored {i : Index} (h : i.Sound) :
    i.records.map Record.stored = i.records := by
  rw [List.map_congr_left (g := id) fun r hr => ?_, List.map_id]
  rw [Record.stored, (h.validIdentifiers_eq hr).1]
  rfl

theorem one_le_size {i : Index} (h : i.isEmpty = false) : 1 ≤ i.size := by
  rw [isEmpty, Std.TreeMap.isEmpty_eq_size_eq_zero, beq_eq_false_iff_ne] at h
  exact Nat.one_le_iff_ne_zero.mpr h

end Index

namespace Session

/-- **An index is read as it was written.**  An empty index leaves the files alone.  When any other
is written, the count is its size, the file holds one record for each entry, and every fresh
resolver with the same store reads as many records, and answers alike. -/
theorem write_read_cache {s : Session} (h : s.Reachable) {path : Path}
    (hs : s.resolver.store = some (.atPath path)) :
    (s.resolver.index.isEmpty = true → s.resolver.writeCache s.files = (.ok 0, s.files)) ∧
      ∀ count files, s.resolver.index.isEmpty = false →
        s.resolver.writeCache s.files = (.ok count, files) →
        count = s.resolver.index.size ∧ 1 ≤ count ∧
          (∃ bytes, files.read path.route = .ok bytes ∧
            (RecordLines.lines bytes).length = count ∧
            RecordLines.decode bytes = ⟨s.resolver.index.records, .ok count⟩) ∧
          ∀ r : Resolver, r.store = some (.atPath path) →
            ∃ r', r.fresh.readCache files = (.ok count, r') ∧ s.resolver.AnswersAlike r' := by
  have hi := h.sound.index
  rw [Resolver.writeCache_atPath hs h.sound.unlocked]
  refine ⟨fun he => by rw [if_pos he], fun count files he hw => ?_⟩
  rw [he, if_neg Bool.false_ne_true] at hw
  -- the store drops identifiers without a value from a record, and here there are none
  obtain ⟨rfl, bytes, hbytes, hlines, hdecode⟩ := Store.write_ok hw
  rw [hi.map_stored] at hdecode
  refine ⟨hi.length_records, hi.length_records ▸ Index.one_le_size he,
    ⟨bytes, hbytes, hlines, hdecode⟩, fun r hr => ⟨_, Resolver.readCache_records hi hr ?_, ?_⟩⟩
  · rw [Store.read_of_file hbytes, hdecode]
  · exact Resolver.answersAlike_of_carries hi (Index.insertRecords_sound Index.sound_empty _)
      h.sound.unlocked rfl hi.insertRecords_records.2

/-- The file of the office, in a directory that is not there yet. -/
def officeFile : Path := ⟨"cache/office.jsonl"⟩

/-- The office with a store; a record has added a telephone number to the clerk. -/
def archive : Session :=
  after { store := some (.atPath officeFile) } {} {}
    [.register [clerk, desk, clerk], .insertRecord ⟨clerk.key, [deskPhone]⟩]

/-- Two entries are written, and read again. -/
theorem write_read_cache_archive :
    archive.Reachable ∧ archive.resolver.store = some (.atPath officeFile) ∧
      archive.resolver.index.isEmpty = false ∧
      ∃ files r', archive.resolver.writeCache archive.files = (.ok 2, files) ∧
        (Resolver.fresh { store := some (.atPath officeFile) }).readCache files = (.ok 2, r') ∧
        archive.resolver.AnswersAlike r' := by
  have hr : archive.Reachable := reachable_after _ _ _ _
  have hs : archive.resolver.store = some (.atPath officeFile) := store_after _ _ _ _
  have he : archive.resolver.index.isEmpty = false := by decide +kernel
  have hcount : (archive.resolver.writeCache archive.files).1 = .ok 2 := by decide +kernel
  have hw : archive.resolver.writeCache archive.files =
      (.ok 2, (archive.resolver.writeCache archive.files).2) := Prod.ext hcount rfl
  obtain ⟨-, -, -, hread⟩ := (write_read_cache hr hs).2 2 _ he hw
  obtain ⟨r', hr', ha⟩ := hread { store := some (.atPath officeFile) } rfl
  exact ⟨hr, hs, he, _, r', hw, hr', ha⟩

end Session

end EntityResolution
