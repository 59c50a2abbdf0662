import EntityResolution.Proofs.CommandLine.Compact

/-!
# What compaction leaves

Records are in *normal form* if each has identifiers, all of them with a value and in strictly
increasing order, and no two have the same key (`AllNormal`).  The records of an index are
(`Sound.allNormal_records`), and so is what compaction writes.  But an index without entries is not
written: a file of records that have nothing to index stays as it is, though none of them is in
normal form.

* `isEmpty_insertRecords_iff`: an index of records has no entries if none of them has anything to
  index.
* `compact_normalises`: compaction leaves a file in normal form unless that is the case.
* `compact_leaves_hollow`: such a file, which compaction leaves alone.
-/

namespace EntityResolution

/-- A record in normal form. -/
structure Record.Normal (r : Record) : Prop where
  inhabited : r.identifiers ≠ []
  valid : ∀ id ∈ r.identifiers, id.value ≠ ""
  increasing : r.identifiers.Pairwise fun a b => compare a b = .lt

/-- Records in normal form, with a key each of its own. -/
structure AllNormal (records : List Record) : Prop where
  normal : ∀ r ∈ records, r.Normal
  nodup_keys : (records.map Record.key).Nodup

theorem allNormal_nil : AllNormal [] := ⟨by simp, List.nodup_nil⟩

/-- A record in normal form has something to index. -/
theorem Record.Normal.validIdentifiers_ne_nil {r : Record} (h : r.Normal) :
    r.validIdentifiers ≠ [] := by
  have hall : r.validIdentifiers = r.identifiers :=
    List.filter_eq_self.mpr fun id hid => by simpa [Identifier.isValid] using h.valid id hid
  rw [hall]
  exact h.inhabited

namespace Index

theorem Sound.allNormal_records {i : Index} (h : i.Sound) : AllNormal i.records := by
  refine ⟨fun r hr => ?_, h.nodup_keys⟩
  obtain ⟨e, he, hids⟩ := h.mem_records.mp hr
  obtain ⟨heq, hne⟩ := h.validIdentifiers_eq hr
  refine ⟨heq ▸ hne, fun id hid => ?_, hids ▸ (h.entry he).sortedValid_increasing⟩
  exact (h.entry he).valid id ((h.entry he).mem_sortedValid.mp (hids ▸ hid))

theorem isEmpty_insertRecords_iff (records : List Record) :
    (empty.insertRecords records).2.isEmpty = true ↔ ∀ r ∈ records, r.validIdentifiers = [] := by
  rw [isEmpty_eq, beq_iff_eq, size_insertRecords, Finset.card_eq_zero,
    Finset.eq_empty_iff_forall_notMem]
  constructor
  · intro h r hr
    refine List.eq_nil_iff_forall_not_mem.mpr fun id hid => h r.key (mem_keysMeant.mpr ⟨id, ?_⟩)
    exact mem_meaning.mpr ⟨r, hr, rfl, hid⟩
  · intro h key hk
    obtain ⟨id, hid⟩ := mem_keysMeant.mp hk
    obtain ⟨r, hr, -, hid⟩ := mem_meaning.mp hid
    rw [h r hr] at hid
    cases hid

end Index

namespace CommandLine.Surroundings

variable {s : Surroundings} {request : Request} {settings : Settings} {records : List Record}

/-- **Compaction normalises a file that has something to index.**  If a file can be read and the
command succeeds, the file is in normal form afterwards exactly if it had no records or one of them
had an identifier with a value.  In the latter case the command has written the file, and it holds
just the lines of its records; else it is as it was, and so is every other file. -/
theorem compact_normalises (hc : request.command = .compact) {bytes : Bytes} {count : Nat}
    (hfile : s.files.read (s.cachePath request settings).route = .ok bytes)
    (hdecode : RecordLines.decode bytes = ⟨records, .ok count⟩) {lines : List String}
    {files : FileTree} (h : s.perform request settings = (.ok lines, files)) :
    ∃ bytes' records' count',
      files.read (s.cachePath request settings).route = .ok bytes' ∧
      RecordLines.decode bytes' = ⟨records', .ok count'⟩ ∧
      (AllNormal records' ↔ records = [] ∨ ∃ r ∈ records, r.validIdentifiers ≠ []) ∧
      ((∃ r ∈ records, r.validIdentifiers ≠ []) →
        bytes' = (RecordLines.write {} records').accepted) ∧
      ((∀ r ∈ records, r.validIdentifiers = []) → files = s.files) := by
  obtain rfl := RecordLines.count_of_decode hdecode
  have hread : (Store.atPath (s.cachePath request settings)).read s.files =
      ⟨records, .ok records.length⟩ := (Store.read_of_file hfile).trans hdecode
  have hi := Index.insertRecords_sound Index.sound_empty records
  obtain ⟨-, ⟨he, rfl⟩ | ⟨he, written, hw⟩⟩ := compact_ok hc rfl hread h
  · -- nothing to index: the file is as it was
    have hnone := (Index.isEmpty_insertRecords_iff records).mp he
    have hno : ¬∃ r ∈ records, r.validIdentifiers ≠ [] := fun ⟨r, hr, hne⟩ => hne (hnone r hr)
    refine ⟨bytes, records, _, hfile, hdecode, ⟨fun hn => .inl ?_, ?_⟩, fun hs => absurd hs hno,
      fun _ => rfl⟩
    · exact List.eq_nil_iff_forall_not_mem.mpr fun r hr =>
        (hn.normal r hr).validIdentifiers_ne_nil (hnone r hr)
    · rintro (rfl | hs)
      · exact allNormal_nil
      · exact absurd hs hno
  · -- the records of the index have been written
    obtain ⟨-, hfile'⟩ := Store.write_accepted (Path.route_ending _) hw
    have hdecode' := RecordLines.decode_accepted (Index.empty.insertRecords records).2.records
    rw [hi.map_stored] at hdecode'
    have hsome : ∃ r ∈ records, r.validIdentifiers ≠ [] := by
      by_contra hno
      push Not at hno
      rw [(Index.isEmpty_insertRecords_iff records).mpr hno] at he
      cases he
    refine ⟨_, _, _, hfile', hdecode', iff_of_true hi.allNormal_records (.inr hsome), fun _ => rfl,
      fun hnone => ?_⟩
    obtain ⟨r, hr, hne⟩ := hsome
    exact absurd (hnone r hr) hne

/-- A line with the clerk and a telephone number that has no value. -/
def hollowLine : Bytes :=
  Utf8.encode <| Json.objectText
    [("system_id", Json.quote Session.clerk.key.id.text), ("kind", Json.quote "Person"),
      ("identifiers", Json.arrayText [Identifier.json ⟨"contact", "phone", "", none⟩])]

/-- The record of this line. -/
def hollowRecord : Record := ⟨Session.clerk.key, [⟨"contact", "phone", "", none⟩]⟩

theorem readLine_hollowLine : RecordLines.readLine 1 hollowLine = .ok (some hollowRecord) := by
  decide +kernel

theorem lines_hollowLine (rest : Bytes) :
    RecordLines.lines (hollowLine ++ RecordLines.lineFeed :: rest) =
      hollowLine :: RecordLines.lines rest := by
  have hfree : RecordLines.lineFeed ∉ hollowLine := by decide +kernel
  have hdrop : RecordLines.dropReturn hollowLine = hollowLine := by decide +kernel
  rw [RecordLines.lines, RecordLines.linesFrom_append [] _ _ hfree, List.reverse_nil,
    List.nil_append, hdrop]
  rfl

/-- The files with one at the place where the program looks for it. -/
def withFile (bytes : Bytes) : Surroundings where
  environment := { cacheFile := some "c.jsonl" }
  files := FileTree.set {} ["c.jsonl"] (.file bytes)

/-- The clerk again, with identifiers that are not in order. -/
def mixedRecord : Record := ⟨Session.clerk.key, [Session.deskPhone, Session.sharedMail]⟩

/-- A file with the hollow line and one for the record. -/
def mixedFile : Bytes :=
  hollowLine ++ RecordLines.lineFeed :: (RecordLines.write {} [mixedRecord]).accepted

/-- The two lines become one in normal form. -/
theorem compact_normalises_mixed :
    (withFile mixedFile).files.read
        ((withFile mixedFile).cachePath { command := .compact } {}).route = .ok mixedFile ∧
      RecordLines.decode mixedFile = ⟨[hollowRecord, mixedRecord], .ok 2⟩ ∧
      ∃ files bytes' records' count',
        (withFile mixedFile).perform { command := .compact } {} =
            (.ok ["compacted 1 records into 1 entries"], files) ∧
          files.read ((withFile mixedFile).cachePath { command := .compact } {}).route =
            .ok bytes' ∧
          RecordLines.decode bytes' = ⟨records', .ok count'⟩ ∧ AllNormal records' := by
  have hfile : (withFile mixedFile).files.read
      ((withFile mixedFile).cachePath { command := .compact } {}).route = .ok mixedFile := by
    decide +kernel
  have hdecode : RecordLines.decode mixedFile = ⟨[hollowRecord, mixedRecord], .ok 2⟩ := by
    have hstored : [mixedRecord].map Record.stored = [mixedRecord] := by decide
    rw [RecordLines.decode, mixedFile, lines_hollowLine, RecordLines.readLines,
      readLine_hollowLine, RecordLines.lines_accepted]
    dsimp only
    rw [RecordLines.readLines_map_recordBytes, hstored]
    rfl
  have hlines : ((withFile mixedFile).perform { command := .compact } {}).1 =
      .ok ["compacted 1 records into 1 entries"] := by decide +kernel
  generalize h : (withFile mixedFile).perform { command := .compact } {} = result at hlines ⊢
  obtain ⟨_, files⟩ := result
  cases hlines
  obtain ⟨bytes', records', count', hfile', hdecode', hnormal, -, -⟩ :=
    compact_normalises rfl hfile hdecode h
  exact ⟨hfile, hdecode, files, bytes', records', count', rfl, hfile', hdecode',
    hnormal.mpr (.inr ⟨mixedRecord, by simp, by decide⟩)⟩

/-- A file with nothing but the hollow line. -/
def hollowFile : Bytes := hollowLine ++ RecordLines.lineFeed :: []

/-- The command succeeds on a file whose only record has an identifier without a value, and leaves
it there. -/
theorem compact_leaves_hollow :
    ∃ (s : Surroundings) (bytes : Bytes) (records : List Record) (count : Nat)
      (lines : List String) (files : FileTree),
      s.files.read (s.cachePath { command := .compact } {}).route = .ok bytes ∧
        RecordLines.decode bytes = ⟨records, .ok count⟩ ∧
        s.perform { command := .compact } {} = (.ok lines, files) ∧
        ∀ bytes' records' count',
          files.read (s.cachePath { command := .compact } {}).route = .ok bytes' →
          RecordLines.decode bytes' = ⟨records', .ok count'⟩ →
          (∃ r ∈ records', ∃ id ∈ r.identifiers, id.value = "") ∧ ¬AllNormal records' := by
  have hfile : (withFile hollowFile).files.read
      ((withFile hollowFile).cachePath { command := .compact } {}).route = .ok hollowFile := by
    decide +kernel
  have hdecode : RecordLines.decode hollowFile = ⟨[hollowRecord], .ok 1⟩ := by
    rw [RecordLines.decode, hollowFile, lines_hollowLine, RecordLines.readLines,
      readLine_hollowLine]
    rfl
  have hlines : ((withFile hollowFile).perform { command := .compact } {}).1 =
      .ok ["compacted 0 records into 0 entries"] := by decide +kernel
  have hsame : ((withFile hollowFile).perform { command := .compact } {}).2.read
      ((withFile hollowFile).cachePath { command := .compact } {}).route = .ok hollowFile := by
    decide +kernel
  generalize h : (withFile hollowFile).perform { command := .compact } {} = result at hlines hsame
  obtain ⟨_, files⟩ := result
  cases hlines
  refine ⟨withFile hollowFile, _, _, _, _, files, hfile, hdecode, h,
    fun bytes' records' count' hfile' hdecode' => ?_⟩
  cases hsame.symm.trans hfile'
  cases hdecode.symm.trans hdecode'
  have hempty : ∃ r ∈ [hollowRecord], ∃ id ∈ r.identifiers, id.value = "" := by decide
  refine ⟨hempty, fun hn => ?_⟩
  obtain ⟨r, hr, id, hid, hv⟩ := hempty
  exact (hn.normal r hr).valid id hid hv

end CommandLine.Surroundings

end EntityResolution
