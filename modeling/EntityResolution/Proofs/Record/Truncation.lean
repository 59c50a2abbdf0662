import EntityResolution.Proofs.Json.Beginning
import EntityResolution.Proofs.Record.Reading
import EntityResolution.Proofs.Record.RoundTrip
import Mathlib.Data.List.DropRight

/-!
# Record lines that are cut off

A file of records that ends too early, at whatever byte, is never read as other records than those
that were written (`decode_truncated`).  What is left of it is some lines that are whole, and behind
them the beginning of one more, the open line (`cut_cases`).

* An open line without bytes is no line, and one that lacks only its line feed is read as its
  record.
* Any other cannot be read (`content?_eq_none_of_prefix`): if it ends inside a character it is no
  text, else it is the beginning of an object's text, which is no JSON text.
-/

namespace EntityResolution.RecordLines

/-- The bytes behind the last line feed. -/
def openLine (bytes : Bytes) : Bytes := bytes.rtakeWhile (· ≠ lineFeed)

/-! ### The open line -/

theorem openLine_append {front rest : Bytes} (hf : openLine front = []) (hr : lineFeed ∉ rest) :
    openLine (front ++ rest) = rest := by
  induction rest using List.reverseRecOn with
  | nil => rw [List.append_nil, hf]
  | append_singleton rest b ih =>
      obtain ⟨hr, hb⟩ : lineFeed ∉ rest ∧ lineFeed ≠ b := by simpa using hr
      rw [← List.append_assoc, openLine, List.rtakeWhile_concat_pos _ _ _ (by simpa using hb.symm),
        ← openLine, ih hr]

/-- Behind lines that are ended, no line is open. -/
theorem openLine_flatten (texts : List Bytes) :
    openLine (texts.map (· ++ [lineFeed])).flatten = [] := by
  rcases List.eq_nil_or_concat texts with rfl | ⟨texts, line, rfl⟩
  · rfl
  · rw [List.concat_eq_append, List.map_append, List.flatten_append, List.map_singleton,
      List.flatten_singleton, ← List.append_assoc]
    exact List.rtakeWhile_concat_neg _ _ _ (by simp)

theorem count_flatten {texts : List Bytes} (h : ∀ line ∈ texts, lineFeed ∉ line) :
    (texts.map (· ++ [lineFeed])).flatten.count lineFeed = texts.length := by
  induction texts with
  | nil => rfl
  | cons line texts ih =>
      rw [List.map_cons, List.flatten_cons, List.count_append, List.count_append,
        List.count_eq_zero_of_not_mem (h line List.mem_cons_self), List.count_singleton_self,
        ih fun l hl => h l (List.mem_cons_of_mem line hl), List.length_cons]
      omega

/-- **Bytes that begin a file of lines** are some whole lines and the beginning of the next. -/
theorem cut_cases {texts : List Bytes} {cut : Bytes}
    (h : cut <+: (texts.map (· ++ [lineFeed])).flatten) :
    ∃ k rest, cut = ((texts.take k).map (· ++ [lineFeed])).flatten ++ rest ∧ k ≤ texts.length ∧
      (rest = [] ∨ ∃ line, texts[k]? = some line ∧ rest <+: line) := by
  induction texts generalizing cut with
  | nil => exact ⟨0, [], List.prefix_nil.mp h, Nat.le_refl 0, .inl rfl⟩
  | cons line texts ih =>
      rw [List.map_cons, List.flatten_cons] at h
      rcases List.prefix_or_prefix_of_prefix h (List.prefix_append _ _) with hin | ⟨cut', rfl⟩
      · rcases List.prefix_concat_iff.mp hin with rfl | hin
        · exact ⟨1, [], by simp, by simp, .inl rfl⟩
        · exact ⟨0, cut, by simp, by simp, .inr ⟨line, rfl, hin⟩⟩
      · obtain ⟨k, rest, rfl, hk, hrest⟩ := ih ((List.prefix_append_right_inj _).mp h)
        exact ⟨k + 1, rest, by simp, by simpa using hk, by simpa using hrest⟩

theorem lines_of_not_mem {rest : Bytes} (h : lineFeed ∉ rest) (hne : rest ≠ []) :
    lines rest = [rest] := by
  have hjoin := linesFrom_append_of_not_mem [] h []
  rw [List.append_nil, List.append_nil] at hjoin
  rw [lines, hjoin, linesFrom, List.reverse_reverse, if_neg (by simpa using hne)]

/-! ### What is left of a record -/

theorem content?_recordBytes (r : Record) : content? (recordBytes r) = some (some r.stored) := by
  have hr := readLine_recordBytes 1 r
  rw [readLine_eq] at hr
  cases hc : content? (recordBytes r) with
  | none =>
      rw [hc] at hr
      cases hr
  | some held =>
      rw [hc] at hr
      exact congrArg some (Except.ok.inj hr)

theorem holds_map_recordBytes (records : List Record) :
    Holds (records.map recordBytes) (records.map Record.stored) := by
  induction records with
  | nil => exact .nil
  | cons r records ih => exact .record (content?_recordBytes r) ih

/-- A beginning of a record's text is no JSON text. -/
theorem parse?_eq_none_of_prefix {r : Record} {front : List Char} (hp : front <+: r.json)
    (hne : front ≠ r.json) : Json.parse? front = none := by
  have hjson := r.denotes_json.parse?_eq
  rw [Record.json, Json.objectText] at hjson hp hne
  exact Json.parse?_of_prefix hjson ((List.prefix_concat_iff.mp hp).resolve_left hne)

/-- **What is left of a record cannot be read.** -/
theorem content?_eq_none_of_prefix {r : Record} {rest : Bytes} (hp : rest <+: recordBytes r)
    (hnil : rest ≠ []) (hne : rest ≠ recordBytes r) :
    content? rest = none ∧
      ∀ number, (Utf8.EndsInside rest r.json → faultOf number rest = .file .notUtf8) ∧
        (¬Utf8.EndsInside rest r.json → faultOf number rest = .format (.line number)) := by
  by_cases hin : Utf8.EndsInside rest r.json
  · have hd := hin.decode?_eq_none
    refine ⟨by rw [content?, hd]; rfl, fun number => ⟨fun _ => ?_, fun h => absurd hin h⟩⟩
    rw [faultOf, hd]
  · obtain ⟨front, hf, rfl⟩ := (Utf8.prefix_cases hp).resolve_right hin
    have hd := Utf8.decode?_encode front
    refine ⟨?_, fun number => ⟨fun h => absurd h hin, fun _ => ?_⟩⟩
    · have hparse := parse?_eq_none_of_prefix hf fun h => hne (by rw [h, recordBytes])
      have hblank : ¬Text.AllBlank front := by
        cases front with
        | nil => exact absurd rfl hnil
        | cons c front =>
            obtain ⟨rfl, -⟩ := List.cons_prefix_cons.mp hf
            exact fun h => absurd (h '{' List.mem_cons_self) (by decide)
      rw [content?, hd, Option.bind_some, if_neg hblank, hparse]
      rfl
    · rw [faultOf, hd]

/-! ### What is left of a file -/

/-- A file that is cut off, told by the number of its line feeds and by its open line. -/
theorem lines_cut {records : List Record} {cut : Bytes}
    (h : cut <+: (write {} records).accepted) :
    cut.count lineFeed ≤ records.length ∧
      lines cut = (records.take (cut.count lineFeed)).map recordBytes ++ lines (openLine cut) ∧
      (openLine cut = [] ∨ ∃ r, records[cut.count lineFeed]? = some r ∧
        openLine cut <+: recordBytes r) := by
  rw [write_eq] at h
  obtain ⟨k, rest, rfl, hk, hrest⟩ := cut_cases h
  rw [← List.map_take]
  rw [List.length_map] at hk
  have hrest : rest = [] ∨ ∃ r, records[k]? = some r ∧ rest <+: recordBytes r := by
    refine hrest.imp_right ?_
    rintro ⟨line, hl, hp⟩
    rw [List.getElem?_map] at hl
    obtain ⟨r, hr, rfl⟩ := Option.map_eq_some_iff.mp hl
    exact ⟨r, hr, hp⟩
  have hopen : lineFeed ∉ rest := by
    rcases hrest with rfl | ⟨r, -, hp⟩
    · exact List.not_mem_nil
    · exact fun hf => (not_mem_recordBytes r).1 (hp.mem hf)
  rw [List.count_append, count_flatten fun _ hl => (not_mem_of_mem_map hl).1,
    List.count_eq_zero_of_not_mem hopen, Nat.add_zero, List.length_map, List.length_take,
    Nat.min_eq_left hk, openLine_append (openLine_flatten _) hopen,
    lines_flatten_append fun _ => not_mem_of_mem_map]
  exact ⟨hk, rfl, hrest⟩

/-- **A file that is cut off never yields other records.**  Let `k` be the number of its line
feeds, and `rest` what is behind the last of them.  The first `k` records are handed over as they
were stored.  If there is no rest, that is all; if the rest is the next line but for its line feed,
the next record is handed over too.  Any other rest stops the reading: if it ends inside a
character the file is no text, else the line `k + 1` is wrong. -/
theorem decode_truncated (records : List Record) {cut : Bytes}
    (h : cut <+: (write {} records).accepted) {k : Nat} (hk : cut.count lineFeed = k)
    {rest : Bytes} (hrest : openLine cut = rest) :
    k ≤ records.length ∧
      (rest = [] → decode cut = ⟨(records.take k).map Record.stored, .ok k⟩) ∧
      (rest ≠ [] → ∃ r, records[k]? = some r ∧ rest <+: recordBytes r ∧
        (rest = recordBytes r →
          decode cut = ⟨(records.take (k + 1)).map Record.stored, .ok (k + 1)⟩) ∧
        (rest ≠ recordBytes r →
          ∃ fault, decode cut = ⟨(records.take k).map Record.stored, .error fault⟩ ∧
            (Utf8.EndsInside rest r.json → fault = .file .notUtf8) ∧
            (¬Utf8.EndsInside rest r.json → fault = .format (.line (k + 1))))) := by
  obtain ⟨hle, hlines, hopen⟩ := lines_cut h
  rw [hk, hrest] at hlines hopen
  rw [hk] at hle
  have hlength : (records.take k).length = k := by rw [List.length_take, Nat.min_eq_left hle]
  refine ⟨hle, ?_, fun hnil => ?_⟩
  · rintro rfl
    rw [show lines [] = [] from rfl, List.append_nil] at hlines
    rw [decode_of_lines hlines, hlength]
  obtain ⟨r, hr, hp⟩ := hopen.resolve_left hnil
  rw [lines_of_not_mem (fun hf => (not_mem_recordBytes r).1 (hp.mem hf)) hnil] at hlines
  refine ⟨r, hr, hp, ?_, fun hne => ?_⟩
  · -- the open line is whole, and is read like the lines before
    rintro rfl
    have hnext : records.take (k + 1) = records.take k ++ [r] := by
      rw [List.take_add_one, hr]
      rfl
    rw [← List.map_singleton, ← List.map_append, ← hnext] at hlines
    rw [decode_of_lines hlines, hnext, List.length_append, hlength]
    rfl
  · obtain ⟨hc, hfault⟩ := content?_eq_none_of_prefix hp hnil hne
    have hd := decode_of_fault hlines (holds_map_recordBytes (records.take k)) hc
    rw [List.length_map, hlength] at hd
    exact ⟨_, hd, hfault (k + 1)⟩

/-! ### A file with a letter of two bytes -/

/-- A record with an identifier that is not stored. -/
def firstName : Record :=
  ⟨⟨⟨1⟩, .person⟩, [⟨"contact", "name", "Ada", none⟩, ⟨"contact", "mail", "", none⟩]⟩

/-- A record with a letter of two bytes. -/
def secondName : Record := ⟨⟨⟨2⟩, .person⟩, [⟨"contact", "name", "Zoë", none⟩]⟩

/-- What is left of the second record: all up to the first byte of the letter. -/
def halfName : Bytes := (recordBytes secondName).take 129

/-- The first record is read, and the file turns out to be no text. -/
theorem decode_truncated_names :
    (recordBytes firstName ++ lineFeed :: halfName) <+:
        (write {} [firstName, secondName]).accepted ∧
      decode (recordBytes firstName ++ lineFeed :: halfName) =
        ⟨[⟨⟨⟨1⟩, .person⟩, [⟨"contact", "name", "Ada", none⟩]⟩], .error (.file .notUtf8)⟩ := by
  have hcut : (recordBytes firstName ++ lineFeed :: halfName) <+:
      (write {} [firstName, secondName]).accepted := by decide +kernel
  have hcount : (recordBytes firstName ++ lineFeed :: halfName).count lineFeed = 1 := by
    decide +kernel
  have hopen : openLine (recordBytes firstName ++ lineFeed :: halfName) = halfName := by
    decide +kernel
  have hin : Utf8.EndsInside halfName secondName.json :=
    ⟨secondName.json.take 128, 'ë', ['"', '}', ']', '}'], [0xC3], by decide +kernel⟩
  obtain ⟨-, -, hrest⟩ := decode_truncated _ hcut hcount hopen
  obtain ⟨r, hr, -, -, htorn⟩ := hrest (by decide +kernel)
  cases hr
  obtain ⟨fault, hd, hf, -⟩ := htorn (by decide +kernel)
  rw [hf hin] at hd
  exact ⟨hcut, hd⟩

end EntityResolution.RecordLines
