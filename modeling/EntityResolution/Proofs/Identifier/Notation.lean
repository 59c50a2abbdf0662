import EntityResolution.Fault
import Mathlib.Tactic.Common

/-!
# What the notation of identifiers means

A text *spells* another one when each character stands for itself or behind a backslash; a backslash
and a bar never stand for themselves (`Spells`).  A *written form* of an identifier spells its
schema, type and value with colons between, and behind a bare bar its context if it has one
(`Written`).  An identifier has many written forms, and `Identifier.text` is one of them unless a
separator stands in its schema or its type.

* `read_exact`: the reader accepts the written forms and no other text.  A text is no written form
  exactly if it is `Malformed`: it has a bare bar too many, a lone backslash at its end, or too few
  colons.
* `read_text_iff`: the text of an identifier is read back as that identifier exactly if its schema
  and its type have no separator in them, whatever its value and its context are.
-/

namespace EntityResolution.Identifier

/-! ### Spellings -/

/-- `s` spells `w`: each character of `w` stands in `s`, alone or with a backslash in front, and a
backslash or a bar never alone. -/
inductive Spells : List Char → List Char → Prop
  | nil : Spells [] []
  | plain {c : Char} {s w : List Char} (hs : c ≠ '\\') (hb : c ≠ '|') (h : Spells s w) :
      Spells (c :: s) (c :: w)
  | escaped {c : Char} {s w : List Char} (h : Spells s w) : Spells ('\\' :: c :: s) (c :: w)

theorem Spells.append {s t w v : List Char} (h : Spells s w) (h' : Spells t v) :
    Spells (s ++ t) (w ++ v) := by
  induction h with
  | nil => exact h'
  | plain hs hb _ ih => exact .plain hs hb ih
  | escaped _ ih => exact .escaped ih

/-- A text without backslashes and bars spells itself. -/
theorem spells_self {w : List Char} (h : ∀ c ∈ w, c ≠ '\\' ∧ c ≠ '|') : Spells w w := by
  induction w with
  | nil => exact .nil
  | cons c w ih =>
      obtain ⟨hs, hb⟩ := h c List.mem_cons_self
      exact .plain hs hb (ih fun d hd => h d (List.mem_cons_of_mem c hd))

theorem escape_cons (c : Char) (w : List Char) :
    escape (c :: w) = (if c = '\\' ∨ c = '|' then ['\\', c] else [c]) ++ escape w :=
  List.flatMap_cons

theorem escape_append (w v : List Char) : escape (w ++ v) = escape w ++ escape v :=
  List.flatMap_append

theorem spells_escape (w : List Char) : Spells (escape w) w := by
  induction w with
  | nil => exact .nil
  | cons c w ih =>
      rw [escape_cons]
      split
      · exact .escaped ih
      · next hc =>
        obtain ⟨hs, hb⟩ := not_or.mp hc
        exact .plain hs hb ih

theorem length_escape (w : List Char) :
    (escape w).length = w.length + w.countP fun c => c = '\\' ∨ c = '|' := by
  induction w with
  | nil => rfl
  | cons c w ih =>
      rw [escape_cons, List.length_append, ih, List.length_cons]
      by_cases hc : c = '\\' ∨ c = '|'
      · rw [if_pos hc, List.countP_cons_of_pos (by simpa using hc)]
        simp only [List.length_cons, List.length_nil]
        omega
      · rw [if_neg hc, List.countP_cons_of_neg (by simpa using hc)]
        simp only [List.length_cons, List.length_nil]
        omega

/-- **No spelling is shorter** than the one that puts backslashes only where they are needed. -/
theorem Spells.length_escape_le {s w : List Char} (h : Spells s w) :
    (escape w).length ≤ s.length := by
  induction h with
  | nil => exact Nat.le_refl 0
  | plain hs hb _ ih =>
      rw [escape_cons, if_neg (not_or.mpr ⟨hs, hb⟩)]
      simpa using ih
  | @escaped c s w _ ih =>
      have hc : (if c = '\\' ∨ c = '|' then ['\\', c] else [c]).length ≤ 2 := by split <;> simp
      rw [escape_cons, List.length_append, List.length_cons, List.length_cons]
      omega

/-! ### Reading a spelling -/

theorem unescape?_cons {c : Char} (hs : c ≠ '\\') (hb : c ≠ '|') (rest : List Char) :
    unescape? (c :: rest) = (unescape? rest).map fun p => (c :: p.1, p.2) :=
  unescape?.eq_5 c rest hb (fun h _ => hs h) fun _ _ h _ => hs h

/-- A spelling is read as what it spells, whatever stands behind it. -/
theorem Spells.unescape?_append {s w : List Char} (h : Spells s w) (rest : List Char) :
    unescape? (s ++ rest) = (unescape? rest).map fun p => (w ++ p.1, p.2) := by
  induction h with
  | nil => simp
  | plain hs hb _ ih =>
      rw [List.cons_append, unescape?_cons hs hb, ih]
      simp [Function.comp_def]
  | escaped _ ih =>
      rw [List.cons_append, List.cons_append, unescape?, ih]
      simp [Function.comp_def]

theorem Spells.unescape?_eq {s w : List Char} (h : Spells s w) :
    unescape? s = some (w, none) := by
  have h' := h.unescape?_append []
  simpa [unescape?] using h'

theorem Spells.unescape?_bar {s w : List Char} (h : Spells s w) (rest : List Char) :
    unescape? (s ++ '|' :: rest) = some (w, some rest) := by
  rw [h.unescape?_append, unescape?]
  simp

theorem Spells.unescape?_backslash {s w : List Char} (h : Spells s w) :
    unescape? (s ++ ['\\']) = none := by
  rw [h.unescape?_append, unescape?]
  rfl

/-- **Every text** spells something up to its end, up to a bare bar, or up to a backslash with which
it ends. -/
theorem spells_cases (s : List Char) :
    (∃ w, Spells s w) ∨ (∃ x w rest, Spells x w ∧ s = x ++ '|' :: rest) ∨
      ∃ x w, Spells x w ∧ s = x ++ ['\\'] := by
  induction s using unescape?.induct with
  | case1 => exact .inl ⟨[], .nil⟩
  | case2 rest => exact .inr (.inl ⟨[], [], rest, .nil, rfl⟩)
  | case3 => exact .inr (.inr ⟨[], [], .nil, rfl⟩)
  | case4 c rest ih =>
      rcases ih with ⟨w, h⟩ | ⟨x, w, behind, h, rfl⟩ | ⟨x, w, h, rfl⟩
      · exact .inl ⟨c :: w, .escaped h⟩
      · exact .inr (.inl ⟨'\\' :: c :: x, c :: w, behind, .escaped h, rfl⟩)
      · exact .inr (.inr ⟨'\\' :: c :: x, c :: w, .escaped h, rfl⟩)
  | case5 c rest hb hlast hmore ih =>
      have hs : c ≠ '\\' := by
        rintro rfl
        cases rest with
        | nil => exact hlast rfl rfl
        | cons d rest => exact hmore d rest rfl rfl
      rcases ih with ⟨w, h⟩ | ⟨x, w, behind, h, rfl⟩ | ⟨x, w, h, rfl⟩
      · exact .inl ⟨c :: w, .plain hs hb h⟩
      · exact .inr (.inl ⟨c :: x, c :: w, behind, .plain hs hb h, rfl⟩)
      · exact .inr (.inr ⟨c :: x, c :: w, .plain hs hb h, rfl⟩)

/-! ### Cutting at colons -/

theorem cutAtColon?_append {a : List Char} (h : ':' ∉ a) (b : List Char) :
    cutAtColon? (a ++ ':' :: b) = some (a, b) := by
  induction a with
  | nil => rfl
  | cons c a ih =>
      rw [List.cons_append, cutAtColon?, if_neg (Ne.symm (List.ne_of_not_mem_cons h)),
        ih (List.not_mem_of_not_mem_cons h)]
      rfl

theorem cutAtColon?_eq_none {s : List Char} (h : ':' ∉ s) : cutAtColon? s = none := by
  induction s with
  | nil => rfl
  | cons c s ih =>
      rw [cutAtColon?, if_neg (Ne.symm (List.ne_of_not_mem_cons h)),
        ih (List.not_mem_of_not_mem_cons h)]
      rfl

/-- A text has two colons to be cut at, or fewer. -/
theorem colon_cases (s : List Char) :
    s.count ':' < 2 ∨ ∃ a b v, ':' ∉ a ∧ ':' ∉ b ∧ s = a ++ ':' :: (b ++ ':' :: v) := by
  by_cases hs : ':' ∈ s
  · obtain ⟨a, r, rfl, ha⟩ := List.eq_append_cons_of_mem hs
    by_cases hr : ':' ∈ r
    · obtain ⟨b, v, rfl, hb⟩ := List.eq_append_cons_of_mem hr
      exact .inr ⟨a, b, v, ha, hb, rfl⟩
    · refine .inl ?_
      rw [List.count_append, List.count_cons_self, List.count_eq_zero.mpr ha,
        List.count_eq_zero.mpr hr]
      decide
  · exact .inl (by rw [List.count_eq_zero.mpr hs]; decide)

theorem ofBody?_append {a b : List Char} (ha : ':' ∉ a) (hb : ':' ∉ b) (v : List Char)
    (context : Option (List Char)) :
    ofBody? (a ++ ':' :: (b ++ ':' :: v)) context =
      some ⟨String.ofList a, String.ofList b, String.ofList v, context.map String.ofList⟩ := by
  simp only [ofBody?, cutAtColon?_append ha, Option.bind_eq_bind, Option.bind_some,
    cutAtColon?_append hb]
  rfl

theorem ofBody?_eq_none {s : List Char} (h : s.count ':' < 2) (context : Option (List Char)) :
    ofBody? s context = none := by
  by_cases hs : ':' ∈ s
  · obtain ⟨a, b, rfl, ha⟩ := List.eq_append_cons_of_mem hs
    have hb : ':' ∉ b := by
      rw [List.count_append, List.count_cons_self] at h
      exact List.count_eq_zero.mp (by omega)
    simp only [ofBody?, cutAtColon?_append ha, Option.bind_eq_bind, Option.bind_some,
      cutAtColon?_eq_none hb, Option.bind_none]
  · simp only [ofBody?, cutAtColon?_eq_none hs, Option.bind_eq_bind, Option.bind_none]

/-! ### Written forms -/

/-- Schema, type and value with colons between. -/
def body (i : Identifier) : List Char :=
  i.schema.toList ++ ':' :: (i.type.toList ++ ':' :: i.value.toList)

/-- `s` is a written form of `i`: no colon makes the schema or the type end early, and `s` spells
the body, with a bare bar and a spelling of the context behind it if there is a context. -/
def Written (s : List Char) (i : Identifier) : Prop :=
  ':' ∉ i.schema.toList ∧ ':' ∉ i.type.toList ∧
    match i.context with
    | none => Spells s i.body
    | some context => ∃ x y, s = x ++ '|' :: y ∧ Spells x i.body ∧ Spells y context.toList

/-- What can be wrong with a text. -/
inductive Malformed : List Char → Prop
  /-- A bare bar stands behind the context. -/
  | secondBar {x y u v : List Char} (hx : Spells x u) (hy : Spells y v) (rest : List Char) :
      Malformed (x ++ '|' :: (y ++ '|' :: rest))
  /-- A backslash stands in front of nothing. -/
  | loneBackslash {x u : List Char} (hx : Spells x u) : Malformed (x ++ ['\\'])
  | loneBackslashInContext {x y u v : List Char} (hx : Spells x u) (hy : Spells y v) :
      Malformed (x ++ '|' :: (y ++ ['\\']))
  /-- Schema, type and value are not told apart. -/
  | fewColons {x u : List Char} (hx : Spells x u) (hu : u.count ':' < 2) : Malformed x
  | fewColonsBeforeContext {x u : List Char} (hx : Spells x u) (hu : u.count ':' < 2)
      (rest : List Char) : Malformed (x ++ '|' :: rest)

theorem Written.ofText?_eq {s : List Char} {i : Identifier} (h : Written s i) :
    ofText? s = some i := by
  obtain ⟨schema, type, value, context⟩ := i
  obtain ⟨hschema, htype, hs⟩ := h
  cases context with
  | none =>
      have hs' : Spells s (body ⟨schema, type, value, none⟩) := hs
      rw [ofText?, hs'.unescape?_eq]
      simp only [body, ofBody?_append hschema htype, String.ofList_toList, Option.map_none]
  | some context =>
      obtain ⟨x, y, rfl, hx, hy⟩ := hs
      rw [ofText?, hx.unescape?_bar]
      simp only [hy.unescape?_eq, body, ofBody?_append hschema htype, String.ofList_toList,
        Option.map_some]

theorem Malformed.ofText?_eq {s : List Char} (h : Malformed s) : ofText? s = none := by
  cases h with
  | secondBar hx hy rest => simp only [ofText?, hx.unescape?_bar, hy.unescape?_bar]
  | loneBackslash hx => simp only [ofText?, hx.unescape?_backslash]
  | loneBackslashInContext hx hy => simp only [ofText?, hx.unescape?_bar, hy.unescape?_backslash]
  | fewColons hx hu => simp only [ofText?, hx.unescape?_eq, ofBody?_eq_none hu]
  | fewColonsBeforeContext hx hu rest =>
      simp only [ofText?, hx.unescape?_bar, ofBody?_eq_none hu]
      split <;> rfl

/-- **Every text is a written form or malformed.** -/
theorem written_or_malformed (s : List Char) : (∃ i, Written s i) ∨ Malformed s := by
  rcases spells_cases s with ⟨w, hs⟩ | ⟨x, w, rest, hx, rfl⟩ | ⟨x, w, hx, rfl⟩
  · rcases colon_cases w with hw | ⟨a, b, v, ha, hb, rfl⟩
    · exact .inr (.fewColons hs hw)
    · exact .inl ⟨⟨String.ofList a, String.ofList b, String.ofList v, none⟩,
        by simpa [Written, body, ha, hb] using hs⟩
  · rcases colon_cases w with hw | ⟨a, b, v, ha, hb, rfl⟩
    · exact .inr (.fewColonsBeforeContext hx hw rest)
    -- what stands behind the first bare bar is cut apart in its turn
    · rcases spells_cases rest with ⟨c, hc⟩ | ⟨y, c, behind, hy, rfl⟩ | ⟨y, c, hy, rfl⟩
      · refine .inl ⟨⟨String.ofList a, String.ofList b, String.ofList v, some (String.ofList c)⟩,
          by simpa using ha, by simpa using hb, x, rest, rfl, ?_, by simpa using hc⟩
        simpa [body] using hx
      · exact .inr (.secondBar hx hy behind)
      · exact .inr (.loneBackslashInContext hx hy)
  · exact .inr (.loneBackslash hx)

theorem ofText?_eq_some_iff {s : List Char} {i : Identifier} :
    ofText? s = some i ↔ Written s i := by
  refine ⟨fun h => ?_, Written.ofText?_eq⟩
  rcases written_or_malformed s with ⟨j, hj⟩ | hm
  · cases h.symm.trans hj.ofText?_eq
    exact hj
  · cases h.symm.trans hm.ofText?_eq

theorem malformed_iff {s : List Char} : Malformed s ↔ ∀ i, ¬Written s i := by
  refine ⟨fun h i hi => ?_, fun h => ?_⟩
  · cases hi.ofText?_eq.symm.trans h.ofText?_eq
  · exact (written_or_malformed s).resolve_left fun ⟨i, hi⟩ => h i hi

theorem read_eq_ok_iff {text : String} {i : Identifier} :
    read text = .ok i ↔ Written text.toList i := by
  rw [read, ← ofText?_eq_some_iff]
  cases ofText? text.toList with
  | none => simp
  | some j => simp

theorem read_eq_error_iff {text : String} {cause : InvalidText} :
    read text = .error cause ↔ (∀ i, ¬Written text.toList i) ∧ cause = .identifier text := by
  rw [read]
  simp only [← ofText?_eq_some_iff]
  cases ofText? text.toList with
  | none => simp [eq_comm]
  | some j => simp

/-- **The reader accepts exactly the written forms.**  It reads each as the identifier that it is a
form of, and refuses any other text with that text in its complaint; the texts refused are those
that are malformed. -/
theorem read_exact (text : String) :
    (∀ i, read text = .ok i ↔ Written text.toList i) ∧
      ((∀ i, ¬Written text.toList i) ↔ read text = .error (.identifier text)) ∧
      (Malformed text.toList ↔ read text = .error (.identifier text)) := by
  have herror : read text = .error (.identifier text) ↔ ∀ i, ¬Written text.toList i := by
    rw [read_eq_error_iff, and_iff_left rfl]
  exact ⟨fun i => read_eq_ok_iff, herror.symm, malformed_iff.trans herror.symm⟩

/-! ### The form that is written -/

/-- What stands before the value, which is written without backslashes. -/
def front (i : Identifier) : List Char := i.schema.toList ++ ':' :: (i.type.toList ++ [':'])

theorem body_eq (i : Identifier) : i.body = i.front ++ i.value.toList := by simp [body, front]

theorem chars_eq (i : Identifier) :
    i.chars = i.front ++ escape i.value.toList ++
      i.context.elim [] (fun context => '|' :: escape context.toList) := by
  cases h : i.context <;> simp [chars, front, h]

/-- If the text of an identifier is a written form of it, no backslash or bar stands in the front:
the spelling of the body would have to be longer. -/
theorem Written.front_free {i : Identifier} (h : Written i.chars i) :
    (i.front.countP fun c => c = '\\' ∨ c = '|') = 0 := by
  obtain ⟨-, -, hs⟩ := h
  have hbody : (escape i.body).length = i.front.length +
      (i.front.countP fun c => c = '\\' ∨ c = '|') + (escape i.value.toList).length := by
    rw [body_eq, escape_append, List.length_append, length_escape i.front]
  rw [chars_eq] at hs
  cases hc : i.context with
  | none =>
      simp only [hc, Option.elim_none, List.append_nil] at hs
      have hle := hs.length_escape_le
      rw [hbody, List.length_append] at hle
      omega
  | some context =>
      simp only [hc, Option.elim_some] at hs
      obtain ⟨x, y, hxy, hx, hy⟩ := hs
      have hlen := congrArg List.length hxy
      have hlex := hx.length_escape_le
      -- the spelling of the context leaves no room either
      have hley := hy.length_escape_le
      simp only [List.length_append, List.length_cons] at hlen
      omega

theorem written_chars {i : Identifier}
    (h : ∀ c ∈ i.schema.toList ++ i.type.toList, c ≠ ':' ∧ c ≠ '|' ∧ c ≠ '\\') :
    Written i.chars i := by
  have hfront : Spells i.front i.front := spells_self fun c hc => by
    simp only [front, List.mem_append, List.mem_cons, List.not_mem_nil, or_false] at hc
    rcases hc with hc | rfl | hc | rfl
    · exact (h c (List.mem_append_left _ hc)).2.symm
    · decide
    · exact (h c (List.mem_append_right _ hc)).2.symm
    · decide
  have hbody : Spells (i.front ++ escape i.value.toList) i.body :=
    body_eq i ▸ hfront.append (spells_escape _)
  refine ⟨fun hc => (h ':' (List.mem_append_left _ hc)).1 rfl,
    fun hc => (h ':' (List.mem_append_right _ hc)).1 rfl, ?_⟩
  rw [chars_eq]
  cases i.context with
  | none => simpa using hbody
  | some context => exact ⟨_, _, rfl, hbody, spells_escape _⟩

/-- **The text of an identifier is read back** exactly if no colon, bar or backslash stands in its
schema or its type. -/
theorem read_text_iff (i : Identifier) :
    read i.text = .ok i ↔
      ∀ c ∈ i.schema.toList ++ i.type.toList, c ≠ ':' ∧ c ≠ '|' ∧ c ≠ '\\' := by
  rw [read_eq_ok_iff, text, String.toList_ofList]
  refine ⟨fun h c hc => ?_, written_chars⟩
  have hfree := List.countP_eq_zero.mp h.front_free
  obtain ⟨hschema, htype, -⟩ := h
  have hf : c ∈ i.front := by
    simp only [front, List.mem_append, List.mem_cons]
    exact (List.mem_append.mp hc).imp_right fun ht => .inr (.inl ht)
  refine ⟨?_, by simpa [and_comm] using hfree c hf⟩
  rintro rfl
  exact (List.mem_append.mp hc).elim hschema htype

end EntityResolution.Identifier
