import EntityResolution.Proofs.Json.RoundTrip
import EntityResolution.Proofs.Text.Utf8
import EntityResolution.Proofs.Text.Hex
import EntityResolution.Record.Store

/-!
# Round trip of records

Records that are written as lines are read back (`decode_write`): in their order, each with its
key and with those of its identifiers that have a value.

A line is a JSON text without control characters, so it holds no line feed, and does not end in a
carriage return; it starts with a brace, so it is not blank.  The lines of a file are then the
lines that were written (`lines_flatten`), and each is read as the record that it was written for
(`readLine_recordBytes`).
-/

namespace EntityResolution

/-! ### Identifiers -/

namespace Identifier

/-- The fields of an identifier that are written, with their texts. -/
def fields (i : Identifier) : List (String × String) :=
  [("schema_id", i.schema), ("type", i.type)] ++
    (if i.isValid then [("id", i.value)] else []) ++
    (i.context.toList.map fun context => ("context", context))

/-- The value that the JSON text of an identifier denotes. -/
def toJson (i : Identifier) : Json :=
  .object (i.fields.map fun (key, text) => (some key, .string (some text)))

theorem json_eq (i : Identifier) :
    i.json = Json.objectText (i.fields.map fun (key, text) => (key, Json.quote text)) := by
  rw [json, fields]
  cases i.isValid <;> cases i.context <;> rfl

theorem denotes_json (i : Identifier) : Json.Denotes i.json i.toJson := by
  have h := Json.denotes_objectText
    (i.fields.map fun (key, text) => ⟨key, Json.quote text, .string (some text)⟩) fun m hm => by
      obtain ⟨x, -, rfl⟩ := List.mem_map.mp hm
      exact Json.denotes_quote x.2
  rw [List.map_map, List.map_map] at h
  rw [json_eq]
  exact h

theorem controlFree_json (i : Identifier) : Json.ControlFree i.json := by
  rw [json_eq]
  refine Json.controlFree_objectText fun m hm => ?_
  obtain ⟨x, -, rfl⟩ := List.mem_map.mp hm
  exact Json.controlFree_quote x.2

/-- An identifier is read from its value, with or without a value and a context of its own. -/
theorem ofJson?_toJson (i : Identifier) : ofJson? i.toJson = some i := by
  obtain ⟨schema, type, value, context⟩ := i
  by_cases hv : value = ""
  · subst hv
    cases context with
    | none => rfl
    | some context => rfl
  · have hvalid : isValid ⟨schema, type, value, context⟩ = true := by simpa [isValid] using hv
    rw [toJson, fields, hvalid]
    cases context with
    | none => rfl
    | some context => rfl

end Identifier

theorem Kind.ofName?_name (kind : Kind) : ofName? kind.name = some kind := by
  cases kind <;> decide

/-! ### Records -/

namespace Record

/-- The record as it is stored: with the identifiers that have a value. -/
def stored (r : Record) : Record := { r with identifiers := r.validIdentifiers }

/-- The members of the JSON text of a record. -/
def members (r : Record) : List Json.Member :=
  [⟨"system_id", Json.quote r.key.id.text, .string (some r.key.id.text)⟩,
    ⟨"kind", Json.quote r.key.kind.name, .string (some r.key.kind.name)⟩,
    ⟨"identifiers", Json.arrayText (r.validIdentifiers.map Identifier.json),
      .array (r.validIdentifiers.map Identifier.toJson)⟩]

/-- The value that the JSON text of a record denotes. -/
def toJson (r : Record) : Json := .object (r.members.map fun m => (some m.key, m.value))

theorem denotes_json (r : Record) : Json.Denotes r.json r.toJson := by
  have harray := Json.denotes_arrayText (r.validIdentifiers.map fun i => (i.json, i.toJson))
    fun x hx => by
      obtain ⟨i, -, rfl⟩ := List.mem_map.mp hx
      exact i.denotes_json
  rw [List.map_map, List.map_map] at harray
  refine Json.denotes_objectText r.members fun m hm => ?_
  simp only [members, List.mem_cons, List.not_mem_nil, or_false] at hm
  rcases hm with rfl | rfl | rfl
  · exact Json.denotes_quote _
  · exact Json.denotes_quote _
  · exact harray

theorem controlFree_json (r : Record) : Json.ControlFree r.json := by
  refine Json.controlFree_objectText fun m hm => ?_
  simp only [List.mem_cons, List.not_mem_nil, or_false] at hm
  rcases hm with rfl | rfl | rfl
  · exact Json.controlFree_quote _
  · exact Json.controlFree_quote _
  · refine Json.controlFree_arrayText fun s hs => ?_
    obtain ⟨i, -, rfl⟩ := List.mem_map.mp hs
    exact i.controlFree_json

theorem mapM_ofJson? (ids : List Identifier) :
    (ids.map Identifier.toJson).mapM Identifier.ofJson? = some ids := by
  induction ids with
  | nil => rfl
  | cons i ids ih =>
      rw [List.map_cons, List.mapM_cons, Identifier.ofJson?_toJson, ih]
      rfl

theorem ofJson?_toJson (r : Record) : ofJson? r.toJson = some r.stored := by
  have hfields : r.toJson.fields? ["system_id", "kind", "identifiers"] =
      some [some (.string (some r.key.id.text)), some (.string (some r.key.kind.name)),
        some (.array (r.validIdentifiers.map Identifier.toJson))] := rfl
  simp only [ofJson?, hfields, Option.bind_eq_bind, Option.bind_some, Json.text?,
    Uuid.ofText?_text, Kind.ofJson?, Kind.ofName?_name, identifiersOfJson?, mapM_ofJson?]
  rfl

/-- **A record is read from its text**, without the identifiers that have no value. -/
theorem parse?_json (r : Record) : (Json.parse? r.json).bind ofJson? = some r.stored := by
  rw [r.denotes_json.parse?_eq, Option.bind_some, ofJson?_toJson]

end Record

/-! ### Lines -/

namespace RecordLines

/-- Bytes without line feeds join the current line. -/
theorem linesFrom_append_of_not_mem (current : Bytes) {front : Bytes} (h : lineFeed ∉ front)
    (rest : Bytes) : linesFrom current (front ++ rest) = linesFrom (front.reverse ++ current) rest := by
  induction front generalizing current with
  | nil => rfl
  | cons b front ih =>
      rw [List.cons_append, linesFrom, if_neg (Ne.symm (List.ne_of_not_mem_cons h)),
        ih _ (List.not_mem_of_not_mem_cons h), List.reverse_cons, List.append_assoc,
        List.singleton_append]

/-- A line without line feeds is the first line of what follows. -/
theorem linesFrom_append (current line rest : Bytes) (h : lineFeed ∉ line) :
    linesFrom current (line ++ lineFeed :: rest) =
      dropReturn (current.reverse ++ line) :: linesFrom [] rest := by
  rw [linesFrom_append_of_not_mem current h, linesFrom, if_pos rfl, List.reverse_append,
    List.reverse_reverse]

/-- Lines that are ended come first, and what follows is split after them. -/
theorem lines_flatten_append {texts : List Bytes}
    (h : ∀ line ∈ texts, lineFeed ∉ line ∧ carriageReturn ∉ line) (rest : Bytes) :
    lines ((texts.map (· ++ [lineFeed])).flatten ++ rest) = texts ++ lines rest := by
  rw [lines]
  induction texts with
  | nil => rfl
  | cons line texts ih =>
      obtain ⟨hf, hr⟩ := h line List.mem_cons_self
      have hdrop : dropReturn line = line := by
        rw [dropReturn, if_neg fun hl => hr (List.mem_of_getLast? hl)]
      rw [List.map_cons, List.flatten_cons, List.append_assoc, List.append_assoc,
        List.singleton_append, linesFrom_append [] line _ hf, List.reverse_nil, List.nil_append,
        hdrop, ih fun l hl => h l (List.mem_cons_of_mem line hl), List.cons_append]

theorem lines_flatten {texts : List Bytes}
    (h : ∀ line ∈ texts, lineFeed ∉ line ∧ carriageReturn ∉ line) :
    lines (texts.map (· ++ [lineFeed])).flatten = texts := by
  have hl := lines_flatten_append h []
  rwa [List.append_nil, show lines [] = [] from rfl, List.append_nil] at hl

theorem not_mem_recordBytes (r : Record) :
    lineFeed ∉ recordBytes r ∧ carriageReturn ∉ recordBytes r := by
  have h : ∀ b ∈ recordBytes r, 0x20 ≤ b.toNat := fun b hb =>
    Utf8.le_of_mem_encode r.controlFree_json hb
  exact ⟨fun hf => absurd (h _ hf) (by decide), fun hr => absurd (h _ hr) (by decide)⟩

theorem not_mem_of_mem_map {records : List Record} {line : Bytes}
    (hl : line ∈ records.map recordBytes) : lineFeed ∉ line ∧ carriageReturn ∉ line := by
  obtain ⟨r, -, rfl⟩ := List.mem_map.mp hl
  exact not_mem_recordBytes r

/-- **A line is read as the record** that it was written for. -/
theorem readLine_recordBytes (number : Nat) (r : Record) :
    readLine number (recordBytes r) = .ok (some r.stored) := by
  -- a blank line would be skipped
  have hblank : ¬Text.AllBlank r.json := fun h => absurd (h '{' List.mem_cons_self) (by decide)
  simp only [readLine, recordBytes, Utf8.decode?_encode, if_neg hblank, Record.parse?_json]

theorem readLines_map_recordBytes (number count : Nat) (records : List Record) :
    readLines number count (records.map recordBytes) =
      ⟨records.map Record.stored, .ok (count + records.length)⟩ := by
  induction records generalizing number count with
  | nil => rfl
  | cons r records ih =>
      simp only [List.map_cons, readLines, readLine_recordBytes, ih, List.length_cons]
      congr 2
      omega

/-- A device that takes everything is given one line a record. -/
theorem writeFrom_none (device : Device) (taken : List Bytes) (records : List Record) :
    writeFrom device none taken records =
      ⟨taken.reverse.flatten ++ ((records.map recordBytes).map (· ++ [lineFeed])).flatten,
        if device.flushes then .ok (taken.length + records.length)
        else .error (.file (.device noFlush))⟩ := by
  induction records generalizing taken with
  | nil => simp [writeFrom]
  | cons r records ih =>
      rw [writeFrom, ih, List.reverse_cons, List.flatten_append, List.flatten_singleton,
        List.map_cons, List.map_cons, List.flatten_cons, List.append_assoc, List.length_cons,
        List.length_cons, Nat.add_right_comm, Nat.add_assoc]

theorem write_eq (records : List Record) :
    write {} records =
      ⟨((records.map recordBytes).map (· ++ [lineFeed])).flatten, .ok records.length⟩ := by
  rw [write, writeFrom_none]
  simp

/-- The lines of a file that was written are those of the records. -/
theorem lines_accepted (records : List Record) :
    lines (write {} records).accepted = records.map recordBytes := by
  rw [write_eq]
  exact lines_flatten fun _ => not_mem_of_mem_map

/-- A file of the records' lines, however it ends. -/
theorem decode_of_lines {bytes : Bytes} {records : List Record}
    (h : lines bytes = records.map recordBytes) :
    decode bytes = ⟨records.map Record.stored, .ok records.length⟩ := by
  rw [decode, h, readLines_map_recordBytes, Nat.zero_add]

theorem decode_accepted (records : List Record) :
    decode (write {} records).accepted =
      ⟨records.map Record.stored, .ok records.length⟩ :=
  decode_of_lines (lines_accepted records)

/-- **What is written is read back.**  All records are written; and reading succeeds with the same
count and yields the same records in the same order, each with its identifiers in the same order,
without those that have no value. -/
theorem decode_write (records : List Record) :
    (write {} records).outcome = .ok records.length ∧
      decode (write {} records).accepted =
        ⟨records.map fun r => { r with identifiers := r.identifiers.filter (·.value != "") },
          .ok records.length⟩ :=
  ⟨by rw [write_eq], decode_accepted records⟩

end RecordLines

end EntityResolution
