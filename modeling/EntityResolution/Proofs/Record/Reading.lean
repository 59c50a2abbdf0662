import EntityResolution.Record.Store
import Mathlib.Tactic.Common

/-!
# Reading line by line

A line is blank, or holds a record, or can be read as neither (`content?`); the number of the line
matters for the fault only (`readLine_eq`).  A file is read up to the first line of the third sort,
and the records of the lines before it are handed over (`Holds`).

* `holds_cases`: either all lines can be read, or there is a first that cannot.
* `decode_of_holds`: in the one case the reading succeeds, and counts the records.
* `decode_of_fault`: in the other it hands over the records of the lines before, and stops with the
  fault of that line.
-/

namespace EntityResolution.RecordLines

/-- What a line holds: nothing if it is blank, else a record; no answer if it cannot be read. -/
def content? (line : Bytes) : Option (Option Record) :=
  (Utf8.decode? line).bind fun text =>
    if Text.AllBlank text then some none
    else ((Json.parse? text).bind Record.ofJson?).map some

/-- The fault of a line that cannot be read, at its number. -/
def faultOf (number : Nat) (line : Bytes) : Fault :=
  match Utf8.decode? line with
  | none => .file .notUtf8
  | some _ => .format (.line number)

theorem readLine_eq (number : Nat) (line : Bytes) :
    readLine number line =
      match content? line with
      | some held => .ok held
      | none => .error (faultOf number line) := by
  rw [readLine, content?, faultOf]
  cases Utf8.decode? line with
  | none => rfl
  | some text =>
      rw [Option.bind_some]
      dsimp only
      by_cases hb : Text.AllBlank text
      · rw [if_pos hb, if_pos hb]
      · rw [if_neg hb, if_neg hb]
        cases (Json.parse? text).bind Record.ofJson? with
        | none => rfl
        | some record => rfl

/-- Each of the lines can be read, and these are the records that they hold. -/
inductive Holds : List Bytes → List Record → Prop
  | nil : Holds [] []
  | blank {line : Bytes} {lines : List Bytes} {records : List Record}
      (hl : content? line = some none) (h : Holds lines records) : Holds (line :: lines) records
  | record {line : Bytes} {lines : List Bytes} {record : Record} {records : List Record}
      (hl : content? line = some (some record)) (h : Holds lines records) :
      Holds (line :: lines) (record :: records)

/-- Lines that can be read are read, and what follows is read after them. -/
theorem Holds.readLines_append {before : List Bytes} {records : List Record}
    (h : Holds before records) (number count : Nat) (rest : List Bytes) :
    readLines number count (before ++ rest) =
      ⟨records ++ (readLines (number + before.length) (count + records.length) rest).records,
        (readLines (number + before.length) (count + records.length) rest).outcome⟩ := by
  induction h generalizing number count with
  | nil => rfl
  | blank hl _ ih =>
      rw [List.cons_append, readLines, readLine_eq, hl, ih, List.length_cons,
        Nat.add_right_comm number, ← Nat.add_assoc]
  | record hl _ ih =>
      rw [List.cons_append, readLines, readLine_eq, hl]
      dsimp only
      rw [ih, List.length_cons, List.length_cons, Nat.add_right_comm number,
        Nat.add_right_comm count, ← Nat.add_assoc, ← Nat.add_assoc, List.cons_append]

/-- **Either all lines can be read**, or there is a first that cannot. -/
theorem holds_cases (lines : List Bytes) :
    (∃ records, Holds lines records) ∨
      ∃ before bad after records, lines = before ++ bad :: after ∧ Holds before records ∧
        content? bad = none := by
  induction lines with
  | nil => exact .inl ⟨[], .nil⟩
  | cons line lines ih =>
      cases hl : content? line with
      | none => exact .inr ⟨[], line, lines, [], rfl, .nil, hl⟩
      | some held =>
          rcases ih with ⟨records, h⟩ | ⟨before, bad, after, records, rfl, h, hb⟩
          · cases held with
            | none => exact .inl ⟨records, .blank hl h⟩
            | some r => exact .inl ⟨r :: records, .record hl h⟩
          · cases held with
            | none => exact .inr ⟨line :: before, bad, after, records, rfl, .blank hl h, hb⟩
            | some r => exact .inr ⟨line :: before, bad, after, r :: records, rfl, .record hl h, hb⟩

/-- **A file whose lines can all be read.** -/
theorem decode_of_holds {bytes : Bytes} {records : List Record} (h : Holds (lines bytes) records) :
    decode bytes = ⟨records, .ok records.length⟩ := by
  have hr := h.readLines_append 1 0 []
  rw [List.append_nil] at hr
  rw [decode, hr, readLines, List.append_nil, Nat.zero_add]

/-- **A file with a line that cannot be read.** -/
theorem decode_of_fault {bytes : Bytes} {before after : List Bytes} {bad : Bytes}
    {records : List Record} (hl : lines bytes = before ++ bad :: after) (h : Holds before records)
    (hb : content? bad = none) :
    decode bytes = ⟨records, .error (faultOf (before.length + 1) bad)⟩ := by
  rw [decode, hl, h.readLines_append, readLines, readLine_eq, hb, List.append_nil, Nat.add_comm]

/-- A reading that goes through counts the records that it yields. -/
theorem count_of_decode {bytes : Bytes} {records : List Record} {count : Nat}
    (h : decode bytes = ⟨records, .ok count⟩) : count = records.length := by
  rcases holds_cases (lines bytes) with ⟨held, hh⟩ | ⟨before, bad, after, held, hl, hh, hb⟩
  · cases h.symm.trans (decode_of_holds hh)
    rfl
  · cases h.symm.trans (decode_of_fault hl hh hb)

end EntityResolution.RecordLines
