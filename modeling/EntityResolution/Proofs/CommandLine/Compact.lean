import EntityResolution.CommandLine.Run
import EntityResolution.Proofs.Index.Meaning
import EntityResolution.Proofs.Record.Reading
import EntityResolution.Proofs.Session.Persistence
import EntityResolution.Proofs.Store.Replacement

/-!
# Compaction

The command `compact` merges the records of a file into an index and writes the records of the index
to the file.  Whatever the file repeats or holds that cannot be indexed, it means the same
afterwards (`compact_keeps_meaning`), and a second compaction changes nothing but, at most, the order
of the lines.

* `perform_compact_eq_ok_iff`: when the command succeeds, told by the index of the records alone.
* `compact_ok`: how it leaves the file if it succeeds: as it was, if there is nothing to index, and
  otherwise with the records of the index.
-/

namespace EntityResolution

namespace CommandLine

namespace Surroundings

/-- The resolver that reads and writes the records of a request. -/
def resolver (s : Surroundings) (request : Request) (settings : Settings) : Resolver where
  store := some (.atPath (s.cachePath request settings))
  factory := some Entity.blank
  instantiateMissing := settings.instantiateMissing

variable {s : Surroundings} {request : Request} {settings : Settings} {path : Path}
  {records : List Record}

theorem perform_of_readCache {loaded : Nat} {r : Resolver}
    (h : (s.resolver request settings).fresh.readCache s.files = (.ok loaded, r)) :
    s.perform request settings =
      answer settings (s.cachePath request settings) loaded r s.files request.command := by
  have h' : Resolver.readCache
      { store := some (s.store request settings), factory := some Entity.blank,
        instantiateMissing := settings.instantiateMissing } s.files = (.ok loaded, r) := h
  unfold perform
  dsimp only
  rw [h']

/-- The command succeeds with the writing, and reports the numbers. -/
theorem answer_compact_eq_ok_iff {loaded : Nat} {r : Resolver} {before files : FileTree}
    {lines : List String} :
    answer settings path loaded r before .compact = (.ok lines, files) ↔
      ∃ written, r.writeCache before = (.ok written, files) ∧
        lines = ["compacted " ++ toString loaded ++ " records into " ++ toString written ++
          " entries"] := by
  rw [answer]
  cases r.writeCache before with
  | mk outcome files' =>
      cases outcome with
      | error fault => simp
      | ok written => simp [and_comm, eq_comm]

/-- When the command succeeds, told by the index of the records alone. -/
theorem perform_compact_eq_ok_iff (hc : request.command = .compact)
    (hp : s.cachePath request settings = path)
    (hread : (Store.atPath path).read s.files = ⟨records, .ok records.length⟩)
    {lines : List String} {files : FileTree} :
    s.perform request settings = (.ok lines, files) ↔
      ∃ written,
        (if (Index.empty.insertRecords records).2.isEmpty then (.ok 0, s.files)
          else (Store.atPath path).write s.files (Index.empty.insertRecords records).2.records) =
            (.ok written, files) ∧
        lines = ["compacted " ++ toString (records.countP fun r => !r.validIdentifiers.isEmpty) ++
          " records into " ++ toString written ++ " entries"] := by
  have hs : (s.resolver request settings).store = some (.atPath path) := by rw [← hp]; rfl
  have hwrite := Resolver.writeCache_atPath
    (r := { (s.resolver request settings).fresh with
      index := (Index.empty.insertRecords records).2 }) hs rfl s.files
  rw [perform_of_readCache (Resolver.readCache_fresh hs hread), hc, answer_compact_eq_ok_iff,
    hwrite]

/-- How the command leaves the file if it succeeds: as it was if there is nothing to index, else with
the records of the index. -/
theorem compact_ok (hc : request.command = .compact) (hp : s.cachePath request settings = path)
    (hread : (Store.atPath path).read s.files = ⟨records, .ok records.length⟩)
    {lines : List String} {files : FileTree}
    (h : s.perform request settings = (.ok lines, files)) :
    lines = ["compacted " ++ toString (records.countP fun r => !r.validIdentifiers.isEmpty) ++
        " records into " ++ toString (keysMeant records).card ++ " entries"] ∧
      ((Index.empty.insertRecords records).2.isEmpty = true ∧ files = s.files ∨
        (Index.empty.insertRecords records).2.isEmpty = false ∧ ∃ written,
          (Store.atPath path).write s.files (Index.empty.insertRecords records).2.records =
            (.ok written, files)) := by
  have hi := Index.insertRecords_sound Index.sound_empty records
  obtain ⟨written, hw, rfl⟩ := (perform_compact_eq_ok_iff hc hp hread).mp h
  cases he : (Index.empty.insertRecords records).2.isEmpty with
  | true =>
      have hzero : (keysMeant records).card = 0 := by
        rw [← Index.size_insertRecords, ← beq_iff_eq, ← Index.isEmpty_eq]
        exact he
      rw [he] at hw
      cases hw
      exact ⟨by rw [hzero], .inl ⟨rfl, rfl⟩⟩
  | false =>
      rw [he, if_neg Bool.false_ne_true] at hw
      refine ⟨?_, .inr ⟨rfl, written, hw⟩⟩
      rw [(Store.write_ok hw).1, hi.length_records, Index.size_insertRecords]

/-- **After the records of an index have been written**, the command succeeds, and leaves the same
lines in some order. -/
theorem compact_again (hc : request.command = .compact) (hp : s.cachePath request settings = path)
    {i : Index} (hi : i.Sound) (he : i.isEmpty = false) {before : FileTree} {written : Nat}
    (hw : (Store.atPath path).write before i.records = (.ok written, s.files)) :
    ∃ lines files bytes, s.perform request settings = (.ok lines, files) ∧
      files.read path.route = .ok bytes ∧
      (RecordLines.lines bytes).Perm (i.records.map RecordLines.recordBytes) := by
  have hj := Index.insertRecords_sound Index.sound_empty i.records
  have hsame := Index.sameContent_of_carries hi hj hi.insertRecords_records.2
  have hread : (Store.atPath path).read s.files = ⟨i.records, .ok i.records.length⟩ := by
    obtain ⟨-, bytes, hfile, -, hdecode⟩ := Store.write_ok hw
    rw [Store.read_of_file hfile, hdecode, hi.map_stored]
  -- the index of what has been written has the same content, so it is written in its turn
  have hfull : (Index.empty.insertRecords i.records).2.isEmpty = false := by
    rw [Index.isEmpty_eq] at he ⊢
    rwa [← hj.length_records, hsame.records.length_eq, hi.length_records]
  have hencode : ((Store.atPath path).codec.encode
      (Index.empty.insertRecords i.records).2.records).outcome =
        .ok (Index.empty.insertRecords i.records).2.records.length :=
    congrArg Writing.outcome (RecordLines.write_eq _)
  obtain ⟨files, hw'⟩ := Store.write_again hw hencode
  have hperform := (perform_compact_eq_ok_iff hc hp hread).mpr
    ⟨_, by rw [hfull, if_neg Bool.false_ne_true, hw'], rfl⟩
  exact ⟨_, files, _, hperform, (Store.write_accepted path.route_ending hw').2,
    (RecordLines.lines_accepted _).symm ▸ hsame.records.map _⟩

/-- **Compaction loses nothing.**  If a file can be read and the command succeeds, the file means
afterwards what it meant before.  The command tells how many records it has merged, those that have
an identifier with a value, and how many entries there are now, one for each key that the file says
something of.  After that the command succeeds again, and leaves the same lines in some order. -/
theorem compact_keeps_meaning (hc : request.command = .compact) {bytes : Bytes} {count : Nat}
    (hfile : s.files.read (s.cachePath request settings).route = .ok bytes)
    (hdecode : RecordLines.decode bytes = ⟨records, .ok count⟩) {lines : List String}
    {files : FileTree} (h : s.perform request settings = (.ok lines, files)) :
    ∃ loaded written bytes' records' count',
      lines = ["compacted " ++ toString loaded ++ " records into " ++ toString written ++
        " entries"] ∧
      loaded = (records.countP fun r => !r.validIdentifiers.isEmpty) ∧
      written = (keysMeant records).card ∧ written ≤ loaded ∧
      files.read (s.cachePath request settings).route = .ok bytes' ∧
      RecordLines.decode bytes' = ⟨records', .ok count'⟩ ∧
      meaning records' = meaning records ∧
      ∃ lines₂ files₂ bytes₂,
        ({ s with files } : Surroundings).perform request settings = (.ok lines₂, files₂) ∧
          files₂.read (s.cachePath request settings).route = .ok bytes₂ ∧
          (RecordLines.lines bytes₂).Perm (RecordLines.lines bytes') := by
  obtain rfl := RecordLines.count_of_decode hdecode
  have hread : (Store.atPath (s.cachePath request settings)).read s.files =
      ⟨records, .ok records.length⟩ := (Store.read_of_file hfile).trans hdecode
  have hi := Index.insertRecords_sound Index.sound_empty records
  obtain ⟨hlines, ⟨he, rfl⟩ | ⟨he, written, hw⟩⟩ := compact_ok hc rfl hread h
  -- the file has been left alone, and the second time it is again
  · exact ⟨_, _, bytes, records, _, hlines, rfl, rfl, card_keysMeant_le records, hfile, hdecode, rfl,
      lines, s.files, bytes, h, hfile, .refl _⟩
  · obtain ⟨-, hfile'⟩ := Store.write_accepted (Path.route_ending _) hw
    have hdecode' := RecordLines.decode_accepted (Index.empty.insertRecords records).2.records
    rw [hi.map_stored] at hdecode'
    obtain ⟨lines₂, files₂, bytes₂, h₂, hfile₂, hperm⟩ :=
      compact_again (s := { s with files }) hc rfl hi he hw
    exact ⟨_, _, _, _, _, hlines, rfl, rfl, card_keysMeant_le records, hfile', hdecode',
      Index.meaning_records_insertRecords records, lines₂, files₂, bytes₂, h₂, hfile₂,
      (RecordLines.lines_accepted _).symm ▸ hperm⟩

/-- The clerk twice, once with a repeated identifier, a resource without any, and the desk. -/
def cabinetRecords : List Record :=
  [⟨Session.clerk.key, [Session.sharedMail, Session.sharedMail]⟩, ⟨⟨⟨3⟩, .resource⟩, []⟩,
    ⟨Session.desk.key, [Session.sharedMail]⟩, ⟨Session.clerk.key, [Session.deskPhone]⟩]

/-- A file with these records, and a blank line in front. -/
def cabinetFile : Bytes := 0x20 :: 0x0A :: (RecordLines.write {} cabinetRecords).accepted

/-- Where the program finds the file. -/
def cabinet : Surroundings where
  environment := { cacheFile := some "c.jsonl" }
  files := FileTree.set {} ["c.jsonl"] (.file cabinetFile)

/-- Three records are merged into two entries. -/
theorem compact_keeps_meaning_cabinet :
    cabinet.files.read (cabinet.cachePath { command := .compact } {}).route = .ok cabinetFile ∧
      RecordLines.decode cabinetFile = ⟨cabinetRecords, .ok 4⟩ ∧
      ∃ files bytes' records' count',
        cabinet.perform { command := .compact } {} =
            (.ok ["compacted 3 records into 2 entries"], files) ∧
          files.read (cabinet.cachePath { command := .compact } {}).route = .ok bytes' ∧
          RecordLines.decode bytes' = ⟨records', .ok count'⟩ ∧
          meaning records' = meaning cabinetRecords := by
  have hfile : cabinet.files.read (cabinet.cachePath { command := .compact } {}).route =
      .ok cabinetFile := by decide +kernel
  have hdecode : RecordLines.decode cabinetFile = ⟨cabinetRecords, .ok 4⟩ := by
    have hblank : RecordLines.readLine 1 [0x20] = .ok none := by decide +kernel
    have hfirst : ∀ rest, RecordLines.lines (0x20 :: 0x0A :: rest) =
        [0x20] :: RecordLines.lines rest :=
      fun rest => RecordLines.linesFrom_append [] [0x20] rest (by decide)
    rw [RecordLines.decode, cabinetFile, hfirst, RecordLines.readLines, hblank,
      RecordLines.lines_accepted]
    exact RecordLines.readLines_map_recordBytes 2 0 cabinetRecords
  have hlines : (cabinet.perform { command := .compact } {}).1 =
      .ok ["compacted 3 records into 2 entries"] := by decide +kernel
  generalize h : cabinet.perform { command := .compact } {} = result at hlines ⊢
  obtain ⟨_, files⟩ := result
  cases hlines
  obtain ⟨_, _, bytes', records', count', -, -, -, -, hfile', hdecode', hmeaning, -⟩ :=
    compact_keeps_meaning rfl hfile hdecode h
  exact ⟨hfile, hdecode, files, bytes', records', count', rfl, hfile', hdecode', hmeaning⟩

end Surroundings

end CommandLine

end EntityResolution
