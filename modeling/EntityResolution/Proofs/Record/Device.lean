import EntityResolution.Proofs.Record.RoundTrip

/-!
# Devices that fail

A device takes the bytes of a file in order, up to the first one that it has no room for, and may
fail once more when it is flushed.  So it holds a beginning of the file whatever happens, and the
byte that it refuses tells how the writing ends (`writeFrom_some`, `write_device`).

That byte is a line feed or not: a device that is full at the end of a line is at fault itself, one
that is full within a line spoils the record (`refusal`).  The second fault does not say that it was
the device that failed (`full_device_spoils_record`).
-/

namespace EntityResolution

/-- There is room for all the bytes. -/
def Device.Fits (device : Device) (bytes : Bytes) : Prop :=
  ∀ room, device.room = some room → bytes.length ≤ room

namespace RecordLines

/-- The fault of a writing that stops at a byte of the file. -/
def refusal (b : UInt8) : Fault :=
  if b = lineFeed then .file (.device noRoom) else .format (.stopped noRoom)

theorem accepted_cons (r : Record) (records : List Record) :
    (write {} (r :: records)).accepted =
      recordBytes r ++ [lineFeed] ++ (write {} records).accepted := by
  rw [write_eq, write_eq, List.map_cons, List.map_cons, List.flatten_cons]

/-- The byte of a line that a device with too little room refuses. -/
theorem refusal_of_lt {r : Record} {room : Nat} (rest : Bytes)
    (h : room < (recordBytes r ++ [lineFeed]).length) :
    ∃ b, (recordBytes r ++ [lineFeed] ++ rest)[room]? = some b ∧
      refusal b = if (recordBytes r).length ≤ room then .file (.device noRoom)
        else .format (.stopped noRoom) := by
  rw [List.length_append, List.length_singleton] at h
  by_cases hle : (recordBytes r).length ≤ room
  · obtain rfl : room = (recordBytes r).length := by omega
    refine ⟨lineFeed, by simp, ?_⟩
    rw [if_pos hle, refusal, if_pos rfl]
  · have hlt : room < (recordBytes r).length := by omega
    refine ⟨(recordBytes r)[room], ?_, ?_⟩
    · rw [List.append_assoc, List.getElem?_append_left hlt, List.getElem?_eq_getElem hlt]
    · -- the text of a record holds no line feed
      rw [if_neg hle, refusal, if_neg]
      exact fun hb => (not_mem_recordBytes r).1 (hb ▸ List.getElem_mem hlt)

/-- **A device with so much room** holds that much of the file, and the first byte that it refuses
decides the outcome. -/
theorem writeFrom_some (device : Device) (room : Nat) (taken : List Bytes)
    (records : List Record) :
    writeFrom device (some room) taken records =
      ⟨taken.reverse.flatten ++ (write {} records).accepted.take room,
        match (write {} records).accepted[room]? with
        | some b => .error (refusal b)
        | none =>
          if device.flushes then .ok (taken.length + records.length)
          else .error (.file (.device noFlush))⟩ := by
  induction records generalizing room taken with
  | nil => simp [writeFrom, write_eq]
  | cons r records ih =>
      rw [writeFrom, accepted_cons]
      by_cases hle : (recordBytes r ++ [lineFeed]).length ≤ room
      · rw [if_pos hle, ih, List.reverse_cons, List.flatten_append, List.flatten_singleton,
          List.append_assoc taken.reverse.flatten, List.take_append, List.take_of_length_le hle,
          List.getElem?_append_right hle, List.length_cons, List.length_cons, Nat.add_right_comm,
          Nat.add_assoc]
      · obtain ⟨b, hb, hrefusal⟩ := refusal_of_lt (r := r) (write {} records).accepted
          (Nat.lt_of_not_le hle)
        rw [if_neg hle, hb, List.reverse_cons, List.flatten_append, List.flatten_singleton,
          List.take_append_of_le_length (Nat.le_of_not_le hle)]
        dsimp only
        rw [hrefusal]
        split <;> rfl

/-- **What a device holds, and what it answers.**  It holds as much of the file as it has room for.
The writing succeeds, with the number of the records, if and only if the whole file fits and the
device can be flushed.  If it fits but cannot be flushed, that is the fault; if it does not fit, the
first byte that is refused tells the fault: at the end of a line it is the device, and within a line
the record. -/
theorem write_device (device : Device) (records : List Record) :
    let whole := (write {} records).accepted
    let writing := write device records
    writing.accepted = (match device.room with
      | none => whole
      | some room => whole.take room) ∧
    (∀ count, writing.outcome = .ok count ↔
      count = records.length ∧ device.Fits whole ∧ device.flushes = true) ∧
    ∀ fault, writing.outcome = .error fault ↔
      device.Fits whole ∧ device.flushes = false ∧ fault = .file (.device noFlush) ∨
      ∃ room b, device.room = some room ∧ whole[room]? = some b ∧ fault = refusal b := by
  intro whole writing
  obtain ⟨room, flushes⟩ := device
  cases room with
  | none =>
      have hw : writing = ⟨whole, if flushes then .ok records.length
          else .error (.file (.device noFlush))⟩ := by
        rw [show writing = writeFrom ⟨none, flushes⟩ none [] records from rfl, writeFrom_none,
          show whole = _ from congrArg Writing.accepted (write_eq records), List.length_nil,
          Nat.zero_add]
        rfl
      rw [hw]
      cases flushes <;> simp [Device.Fits, eq_comm]
  | some room =>
      have hw : writing = ⟨whole.take room, match whole[room]? with
          | some b => .error (refusal b)
          | none => if flushes then .ok records.length else .error (.file (.device noFlush))⟩ := by
        rw [show writing = writeFrom ⟨some room, flushes⟩ (some room) [] records from rfl,
          writeFrom_some, List.length_nil, Nat.zero_add]
        rfl
      have hfits : Device.Fits ⟨some room, flushes⟩ whole ↔ whole[room]? = none := by
        simp [Device.Fits]
      rw [hw, hfits]
      cases hb : whole[room]? with
      | none => cases flushes <;> simp [eq_comm, hb]
      | some b => simp [eq_comm, hb]

/-- **A full device is told as a spoilt record**, if it is full within a line. -/
theorem full_device_spoils_record :
    ∃ records, (write ⟨some 0, true⟩ records).outcome = .error (.format (.stopped noRoom)) ∧
      ∀ cause, (write ⟨some 0, true⟩ records).outcome ≠ .error (.file cause) := by
  have h : (write ⟨some 0, true⟩ [⟨⟨⟨1⟩, .person⟩, []⟩]).outcome =
      .error (.format (.stopped noRoom)) := by
    decide +kernel
  exact ⟨_, h, fun cause hc => nomatch h.symm.trans hc⟩

end RecordLines

end EntityResolution
