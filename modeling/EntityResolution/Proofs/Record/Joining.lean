import EntityResolution.Proofs.Record.Reading
import EntityResolution.Proofs.Record.RoundTrip

/-!
# Files put behind each other

A file that ends with its last line (`Ended`) can be read on into another: the lines of both are then
those of the one and those of the other (`Ended.lines_append`), and where the counting of lines and
records starts shows in the outcome only (`readLines_add`).

* `decode_append_of_error`: a reading that has failed does not get to what comes behind.
* `decode_append_of_ok`: one that has not goes on as if the second file were read alone, with the
  lines and the records counted on.
* `decode_allBlank`: a text of blanks is a file of blank lines, in which nothing is read.

So blank lines may be put in at the end of every line (`decode_append`).
-/

namespace EntityResolution

/-- The fault as it is told when so many more lines stand in front. -/
def Fault.moveDown (lines : Nat) : Fault → Fault
  | .format (.line number) => .format (.line (number + lines))
  | fault => fault

theorem Fault.moveDown_comm (lines more : Nat) (fault : Fault) :
    (fault.moveDown lines).moveDown more = (fault.moveDown more).moveDown lines := by
  cases fault with
  | format cause =>
      cases cause with
      | line number => simp only [moveDown, Nat.add_right_comm]
      | stopped words => rfl
  | _ => rfl

namespace RecordLines

/-- The last line is ended, or there is none. -/
def Ended (bytes : Bytes) : Prop := bytes = [] ∨ bytes.getLast? = some lineFeed

instance (bytes : Bytes) : Decidable (Ended bytes) :=
  inferInstanceAs (Decidable (bytes = [] ∨ bytes.getLast? = some lineFeed))

/-! ### The lines of two files -/

/-- Up to a line feed the lines are the same, whatever comes behind it. -/
theorem linesFrom_lineFeed (current front rest : Bytes) :
    linesFrom current (front ++ lineFeed :: rest) =
      linesFrom current (front ++ [lineFeed]) ++ lines rest := by
  induction front generalizing current with
  | nil => rfl
  | cons b front ih =>
      rw [List.cons_append, List.cons_append, linesFrom, linesFrom]
      split
      · rw [ih, List.cons_append]
      · exact ih (b :: current)

theorem Ended.lines_append {front : Bytes} (h : Ended front) (rest : Bytes) :
    lines (front ++ rest) = lines front ++ lines rest := by
  rcases h with rfl | h
  · rfl
  · obtain ⟨front, rfl⟩ := List.getLast?_eq_some_iff.mp h
    rw [List.append_assoc, List.singleton_append]
    exact linesFrom_lineFeed [] front rest

theorem length_linesFrom (current front : Bytes) :
    (linesFrom current (front ++ [lineFeed])).length = (front ++ [lineFeed]).count lineFeed := by
  induction front generalizing current with
  | nil => rfl
  | cons b front ih =>
      rw [List.cons_append, linesFrom, List.count_cons]
      split
      · next hb => rw [List.length_cons, ih, hb, beq_self_eq_true, if_pos rfl]
      · next hb => rw [ih, if_neg (by simpa using hb), Nat.add_zero]

/-- Lines that are ended are counted by their line feeds. -/
theorem Ended.length_lines {front : Bytes} (h : Ended front) :
    (lines front).length = front.count lineFeed := by
  rcases h with rfl | h
  · rfl
  · obtain ⟨front, rfl⟩ := List.getLast?_eq_some_iff.mp h
    exact length_linesFrom [] front

/-! ### Reading on -/

theorem faultOf_add (number moved : Nat) (line : Bytes) :
    faultOf (number + moved) line = (faultOf number line).moveDown moved := by
  rw [faultOf, faultOf]
  cases Utf8.decode? line <;> rfl

/-- **Where the counting starts** shows in the outcome only. -/
theorem readLines_add (number count moved more : Nat) (lines : List Bytes) :
    readLines (number + moved) (more + count) lines =
      ⟨(readLines number count lines).records,
        ((readLines number count lines).outcome.map (more + ·)).mapError
          (Fault.moveDown moved)⟩ := by
  induction lines generalizing number count with
  | nil => rfl
  | cons line lines ih =>
      rw [readLines, readLines, readLine_eq, readLine_eq]
      cases content? line with
      | none =>
          dsimp only
          rw [faultOf_add]
          rfl
      | some held =>
          cases held with
          | none =>
              dsimp only
              rw [Nat.add_right_comm, ih]
          | some record =>
              dsimp only
              rw [Nat.add_right_comm, Nat.add_assoc more, ih]

theorem decode_append_of_error {front : Bytes} (h : Ended front) {records : List Record}
    {fault : Fault} (hd : decode front = ⟨records, .error fault⟩) (rest : Bytes) :
    decode (front ++ rest) = ⟨records, .error fault⟩ := by
  rcases holds_cases (lines front) with ⟨held, hh⟩ | ⟨before, bad, after, held, hl, hh, hb⟩
  · cases hd.symm.trans (decode_of_holds hh)
  · have hl' : lines (front ++ rest) = before ++ bad :: (after ++ lines rest) := by
      rw [h.lines_append, hl, List.append_assoc, List.cons_append]
    rw [decode_of_fault hl' hh hb, ← decode_of_fault hl hh hb, hd]

theorem decode_append_of_ok {front : Bytes} (h : Ended front) {records : List Record} {count : Nat}
    (hd : decode front = ⟨records, .ok count⟩) (rest : Bytes) :
    decode (front ++ rest) =
      ⟨records ++ (decode rest).records,
        ((decode rest).outcome.map (count + ·)).mapError
          (Fault.moveDown (front.count lineFeed))⟩ := by
  rcases holds_cases (lines front) with ⟨held, hh⟩ | ⟨before, bad, after, held, hl, hh, hb⟩
  · cases hd.symm.trans (decode_of_holds hh)
    rw [decode, h.lines_append, hh.readLines_append, h.length_lines, Nat.add_comm 0, readLines_add,
      ← decode]
  · cases hd.symm.trans (decode_of_fault hl hh hb)

/-! ### Blank lines -/

theorem allBlank_nil : Text.AllBlank [] := List.forall_mem_nil _

theorem content?_of_allBlank {text : List Char} (h : Text.AllBlank text) :
    content? (Utf8.encode text) = some none := by
  rw [content?, Utf8.decode?_encode, Option.bind_some, if_pos h]

/-- A carriage return that is taken off a blank text was one of its blanks. -/
theorem content?_dropReturn {text : List Char} (h : Text.AllBlank text) :
    content? (dropReturn (Utf8.encode text)) = some none := by
  rw [dropReturn]
  split
  · next hl =>
    rcases List.eq_nil_or_concat text with rfl | ⟨front, c, rfl⟩
    · cases hl
    rw [List.concat_eq_append, Utf8.encode_append, Utf8.encode_singleton] at hl ⊢
    rw [List.concat_eq_append] at h
    have hne := String.utf8EncodeChar_ne_nil (c := c)
    have hmem : carriageReturn ∈ String.utf8EncodeChar c := by
      rw [List.getLast?_append, List.getLast?_eq_some_getLast hne, Option.some_or,
        Option.some.injEq] at hl
      rw [← hl]
      exact List.getLast_mem hne
    obtain rfl : c = '\r' := Char.toNat_inj.mp (Utf8.toNat_of_mem_encodeChar hmem (by decide))
    rw [show String.utf8EncodeChar '\r' = [carriageReturn] by decide, List.dropLast_concat]
    exact content?_of_allBlank fun d hd => h d (List.mem_append_left _ hd)
  · exact content?_of_allBlank h

/-- A text of blanks is read as blank lines; the part `done` of the current line is read already. -/
theorem holds_linesFrom_encode {done text : List Char} (hd : Text.AllBlank done)
    (ht : Text.AllBlank text) :
    Holds (linesFrom (Utf8.encode done).reverse (Utf8.encode text)) [] := by
  induction text generalizing done with
  | nil =>
      rw [show Utf8.encode [] = [] from rfl, linesFrom, List.reverse_reverse]
      split
      · exact .nil
      · exact .blank (content?_of_allBlank hd) .nil
  | cons c text ih =>
      obtain ⟨hc, ht'⟩ := List.forall_mem_cons.mp ht
      rw [Utf8.encode_cons]
      by_cases hfeed : c = '\n'
      · subst hfeed
        rw [show String.utf8EncodeChar '\n' = [lineFeed] by decide, List.singleton_append, linesFrom,
          if_pos rfl, List.reverse_reverse]
        exact .blank (content?_dropReturn hd) (ih allBlank_nil ht')
      · have hmem : lineFeed ∉ String.utf8EncodeChar c := fun hm =>
          hfeed (Char.toNat_inj.mp (Utf8.toNat_of_mem_encodeChar hm (by decide)))
        have hdone : Text.AllBlank (done ++ [c]) :=
          List.forall_mem_append.mpr ⟨hd, List.forall_mem_singleton.mpr hc⟩
        have hh := ih hdone ht'
        rw [Utf8.encode_append, List.reverse_append, Utf8.encode_singleton] at hh
        rwa [linesFrom_append_of_not_mem _ hmem]

/-- **A text of blanks** holds no record and no fault. -/
theorem decode_allBlank {text : List Char} (h : Text.AllBlank text) :
    decode (Utf8.encode text) = ⟨[], .ok 0⟩ :=
  decode_of_holds (holds_linesFrom_encode allBlank_nil h)

/-- **Reading goes line by line.**  A file that ends with its last line is put in front of other
bytes.  If it cannot be read, reading both fails in the same way, after the same records.  If it can,
its records come first and then those of the rest, and the outcome is that of the rest: the counts
are added, and the line of a fault is further down by the lines in front.

So blank lines that are put in between change no record, and move the line of a fault down. -/
theorem decode_append {front : Bytes} (h : Ended front) :
    (∀ records fault, decode front = ⟨records, .error fault⟩ →
      ∀ rest, decode (front ++ rest) = ⟨records, .error fault⟩) ∧
    ∀ records count, decode front = ⟨records, .ok count⟩ → ∀ rest,
      decode (front ++ rest) =
        ⟨records ++ (decode rest).records,
          ((decode rest).outcome.map (count + ·)).mapError
            (Fault.moveDown (front.count lineFeed))⟩ ∧
      ∀ text, Text.AllBlank text → Ended (Utf8.encode text) →
        decode (front ++ Utf8.encode text ++ rest) =
          ⟨(decode (front ++ rest)).records,
            (decode (front ++ rest)).outcome.mapError
              (Fault.moveDown ((Utf8.encode text).count lineFeed))⟩ := by
  refine ⟨fun records fault hd => decode_append_of_error h hd, fun records count hd rest => ?_⟩
  have hjoin := decode_append_of_ok h hd rest
  refine ⟨hjoin, fun text hblank hended => ?_⟩
  rw [List.append_assoc, decode_append_of_ok h hd,
    decode_append_of_ok hended (decode_allBlank hblank), hjoin, List.nil_append]
  cases (decode rest).outcome with
  | ok n => simp only [Except.map, Except.mapError, Nat.zero_add]
  | error fault => simp only [Except.map, Except.mapError, Fault.moveDown_comm]

/-- A record that can be stored as it is. -/
def adaRecord : Record := ⟨⟨⟨1⟩, .person⟩, [⟨"contact", "name", "Ada", none⟩]⟩

/-- The line of the record, and a line of blanks put in behind it: the bytes after them, which are no
JSON text, are wrong as the second line and as the third. -/
theorem decode_append_ada :
    Ended (recordBytes adaRecord ++ [lineFeed]) ∧
      Text.AllBlank ['\u2003', '\r', '\n'] ∧ Ended (Utf8.encode ['\u2003', '\r', '\n']) ∧
      decode (recordBytes adaRecord ++ [lineFeed]) = ⟨[adaRecord], .ok 1⟩ ∧
      decode (recordBytes adaRecord ++ [lineFeed] ++ [0x6F]) =
        ⟨[adaRecord], .error (.format (.line 2))⟩ ∧
      decode (recordBytes adaRecord ++ [lineFeed] ++ Utf8.encode ['\u2003', '\r', '\n'] ++ [0x6F]) =
        ⟨[adaRecord], .error (.format (.line 3))⟩ := by
  have hended : Ended (recordBytes adaRecord ++ [lineFeed]) := by decide +kernel
  have hblank : Text.AllBlank ['\u2003', '\r', '\n'] := by decide
  have hline : Ended (Utf8.encode ['\u2003', '\r', '\n']) := by decide
  have hlines : lines (recordBytes adaRecord ++ [lineFeed]) = [recordBytes adaRecord] := by
    decide +kernel
  have hada : decode (recordBytes adaRecord ++ [lineFeed]) = ⟨[adaRecord], .ok 1⟩ :=
    decode_of_holds (hlines ▸ .record (by decide +kernel) .nil)
  have hcontent : content? [0x6F] = none := by decide +kernel
  have hfault : faultOf 1 [0x6F] = .format (.line 1) := by decide +kernel
  have hbad : decode [0x6F] = ⟨[], .error (.format (.line 1))⟩ :=
    hfault ▸ decode_of_fault (show lines [0x6F] = [] ++ [0x6F] :: [] from rfl) .nil hcontent
  obtain ⟨hjoin, hmoved⟩ := (decode_append hended).2 _ _ hada [0x6F]
  have hcount : (recordBytes adaRecord ++ [lineFeed]).count lineFeed = 1 := by decide +kernel
  rw [hbad, hcount] at hjoin
  refine ⟨hended, hblank, hline, hada, hjoin, ?_⟩
  rw [hmoved _ hblank hline, hjoin]
  rfl

end RecordLines

end EntityResolution
