import EntityResolution.Proofs.Toml.Text
import EntityResolution.Proofs.Toml.Number

/-!
# Reading the lines of a TOML file

The plain part of the format: headers of one bare key in brackets, lines of a bare key, an equals
sign and a value, and empty lines.  What such a line says is told once for each kind
(`statement?_header`, `statement?_assign`), for every value whose text is read up to the end of its
line (`Writes`), and `Reads` puts the lines of a file together: the reader counts its statements
down, so it is said of every count that is longer than the text.
-/

namespace EntityResolution.Toml

/-! ### Keys -/

/-- A key that needs no quotes. -/
def Bare (key : String) : Prop := key.toList ≠ [] ∧ key.toList.all isBare = true

instance (key : String) : Decidable (Bare key) :=
  inferInstanceAs (Decidable (_ ∧ key.toList.all isBare = true))

theorem Bare.all {key : String} (h : Bare key) : ∀ c ∈ key.toList, isBare c = true :=
  List.all_eq_true.mp h.2

/-- A bare character is none of those that mean something else between statements. -/
theorem ne_of_isBare {c d : Char} (hc : isBare c = true) (hd : isBare d = false) : c ≠ d := by
  rintro rfl
  rw [hc] at hd
  cases hd

theorem isGap_eq_false {c : Char} (h : c ≠ ' ' ∧ c ≠ '\t') : isGap c = false := by
  simp [isGap, h.1, h.2]

theorem skipGap_cons {c : Char} (hc : isGap c = false) (s : List Char) :
    skipGap (c :: s) = c :: s :=
  List.dropWhile_cons_of_neg (by simp [hc])

theorem Bare.exists_cons {key : String} (h : Bare key) :
    ∃ c word, key.toList = c :: word ∧ isBare c = true := by
  obtain ⟨c, word, hs⟩ := List.exists_cons_of_ne_nil h.1
  exact ⟨c, word, hs, h.all c (hs ▸ List.mem_cons_self)⟩

theorem Bare.skipGap_append {key : String} (h : Bare key) (s : List Char) :
    skipGap (key.toList ++ s) = key.toList ++ s := by
  obtain ⟨c, word, hs, hc⟩ := h.exists_cons
  rw [hs, List.cons_append]
  exact skipGap_cons (isGap_eq_false ⟨ne_of_isBare hc (by decide), ne_of_isBare hc (by decide)⟩) _

/-- A bare key ends where a character stands that is not bare. -/
theorem simpleKey?_bare {key : String} (h : Bare key) {d : Char} (hd : isBare d = false)
    (s : List Char) : simpleKey? (key.toList ++ d :: s) = some (key, d :: s) := by
  have htake : (key.toList ++ d :: s).takeWhile isBare = key.toList := by
    rw [List.takeWhile_append_of_pos h.all, List.takeWhile_cons_of_neg (by simp [hd]),
      List.append_nil]
  have hdrop : (key.toList ++ d :: s).dropWhile isBare = d :: s := by
    rw [List.dropWhile_append_of_pos h.all, List.dropWhile_cons_of_neg (by simp [hd])]
  obtain ⟨c, word, hs, hc⟩ := h.exists_cons
  have hquote : ∀ quote t, isBare quote = false → key.toList ++ d :: s ≠ quote :: t := by
    intro quote t hq he
    rw [hs] at he
    exact ne_of_isBare hc hq (List.cons.inj he).1
  rw [simpleKey?.eq_3 _ (fun t => hquote _ t (by decide)) fun t => hquote _ t (by decide)]
  simp only [htake, hdrop, List.isEmpty_iff, h.1, if_false, String.ofList_toList]

/-- One bare key is read up to what is behind it, unless that is a dot. -/
theorem keys?_bare {key : String} (h : Bare key) {d e : Char} {s t : List Char}
    (hd : isBare d = false) (hs : skipGap (d :: s) = e :: t) (he : e ≠ '.') :
    keys? maxKeys (key.toList ++ d :: s) = some (([], key), e :: t) := by
  rw [maxKeys, keys?, h.skipGap_append, simpleKey?_bare h hd]
  simp only [Option.bind_eq_bind, Option.bind_some, hs]
  split
  · next rest hdot => exact absurd (List.cons.inj hdot).1 he
  · rfl

/-! ### Lines -/

/-- The text writes the value, at the end of a line: it is read there as the value, and its first
character makes it no array and no inline table. -/
structure Writes (text : List Char) (value : Toml) : Prop where
  first : ∀ c, text.head? = some c → c ≠ '[' ∧ c ≠ '{' ∧ isGap c = false
  read : ∀ rest, scalarValue? (text ++ '\n' :: rest) = some (value, '\n' :: rest)

theorem Writes.exists_cons {text : List Char} {value : Toml} (h : Writes text value)
    (rest : List Char) :
    ∃ c t, text ++ '\n' :: rest = c :: t ∧ c ≠ '[' ∧ c ≠ '{' ∧ isGap c = false := by
  cases text with
  | nil => exact ⟨'\n', rest, rfl, by decide⟩
  | cons c text => exact ⟨c, _, rfl, h.first c rfl⟩

theorem Writes.value? {text : List Char} {value : Toml} (h : Writes text value)
    (rest : List Char) :
    value? maxDepth (skipGap (text ++ '\n' :: rest)) = some (value, '\n' :: rest) := by
  have hread := h.read rest
  obtain ⟨c, t, hs, hbracket, hbrace, hgap⟩ := h.exists_cons rest
  rw [hs] at hread ⊢
  rw [skipGap_cons hgap, maxDepth, value?.eq_4 _ _ (fun _ he => hbracket (List.cons.inj he).1)
    fun _ he => hbrace (List.cons.inj he).1]
  exact hread

theorem endLine?_lineEnd (rest : List Char) : endLine? ('\n' :: rest) = some rest := by
  rw [endLine?, skipGap_cons (by decide)]
  rfl

/-- A line with a key and a value. -/
theorem statement?_assign {key : String} (hkey : Bare key) {text : List Char} {value : Toml}
    (hvalue : Writes text value) (rest : List Char) :
    statement? (key.toList ++ (" = ".toList ++ (text ++ '\n' :: rest))) =
      some (.assign [] key value, rest) := by
  obtain ⟨c, word, hs, hc⟩ := hkey.exists_cons
  have hbracket : ∀ t, key.toList ++ (" = ".toList ++ (text ++ '\n' :: rest)) ≠ '[' :: t := by
    intro t he
    rw [hs] at he
    exact ne_of_isBare hc (by decide) (List.cons.inj he).1
  have hpair : pair? (value? maxDepth)
      (key.toList ++ (" = ".toList ++ (text ++ '\n' :: rest))) =
      some ((([], key), value), '\n' :: rest) := by
    have hkeys := keys?_bare hkey (d := ' ') (e := '=') (by decide)
      (s := '=' :: ' ' :: (text ++ '\n' :: rest)) (t := ' ' :: (text ++ '\n' :: rest)) rfl
      (by decide)
    have hskip : skipGap (' ' :: (text ++ '\n' :: rest)) = skipGap (text ++ '\n' :: rest) := rfl
    rw [pair?]
    simp only [String.reduceToList, List.cons_append, List.nil_append, hkeys, Option.bind_eq_bind,
      Option.bind_some, expect?, if_true, hskip, hvalue.value?, Option.pure_def]
  rw [statement?.eq_3 _ (fun t => hbracket _) hbracket, hpair]
  simp only [Option.bind_eq_bind, Option.bind_some, endLine?_lineEnd, Option.pure_def]

/-- A line with a header. -/
theorem statement?_header {key : String} (hkey : Bare key) (rest : List Char) :
    statement? ('[' :: (key.toList ++ ']' :: '\n' :: rest)) = some (.openTable [] key, rest) := by
  have hkeys := keys?_bare hkey (d := ']') (e := ']') (by decide) (s := '\n' :: rest)
    (skipGap_cons (by decide) _) (by decide)
  obtain ⟨c, word, hs, hc⟩ := hkey.exists_cons
  rw [statement?.eq_2, hkeys]
  · simp only [Option.bind_eq_bind, Option.bind_some, expect?, if_true, endLine?_lineEnd,
      Option.pure_def]
  · intro t he
    rw [hs] at he
    exact ne_of_isBare hc (by decide) (List.cons.inj he).1

/-! ### Files -/

/-- The text is read as the statements. -/
def Reads (s : List Char) (statements : List Statement) : Prop :=
  ∀ fuel, s.length < fuel → statements? fuel s = some statements

namespace Reads

theorem nil : Reads [] [] := by
  intro fuel hfuel
  obtain ⟨fuel, rfl⟩ := Nat.exists_eq_add_one.mpr hfuel
  rfl

variable {s rest : List Char} {statements : List Statement}

/-- An empty line says nothing. -/
theorem emptyLine (h : Reads s statements) : Reads ('\n' :: s) statements := by
  intro fuel hfuel
  have hread := h fuel (Nat.lt_of_succ_lt hfuel)
  obtain ⟨fuel, rfl⟩ := Nat.exists_eq_add_one.mpr (Nat.zero_lt_of_lt hfuel)
  exact hread

/-- One more statement in front. -/
theorem cons {c : Char} {statement : Statement}
    (hc : c ≠ '\n' ∧ c ≠ '\r' ∧ c ≠ '#' ∧ isGap c = false)
    (hstatement : statement? (c :: s) = some (statement, rest)) (hlt : rest.length ≤ s.length)
    (h : Reads rest statements) : Reads (c :: s) (statement :: statements) := by
  intro fuel hfuel
  obtain ⟨fuel, rfl⟩ := Nat.exists_eq_add_one.mpr (Nat.zero_lt_of_lt hfuel)
  have hskip : skipLines false (c :: s) = c :: s := by
    simp [skipLines, returns, hc.1, hc.2.1, hc.2.2.1, hc.2.2.2]
  have hrest := h fuel (Nat.lt_of_le_of_lt hlt (Nat.lt_of_succ_lt_succ hfuel))
  rw [statements?, hskip]
  simp only [hstatement, Option.bind_eq_bind, Option.bind_some, hrest, Option.pure_def]

/-- A line with a key and a value. -/
theorem assign (key : String) (hkey : Bare key) {text : List Char} {value : Toml}
    (hvalue : Writes text value) (h : Reads rest statements) :
    Reads (key.toList ++ (" = ".toList ++ (text ++ '\n' :: rest)))
      (.assign [] key value :: statements) := by
  have hstatement := statement?_assign hkey hvalue rest
  obtain ⟨c, word, hs, hc⟩ := hkey.exists_cons
  rw [hs, List.cons_append] at hstatement ⊢
  refine cons ?_ hstatement ?_ h
  · exact ⟨ne_of_isBare hc (by decide), ne_of_isBare hc (by decide), ne_of_isBare hc (by decide),
      isGap_eq_false ⟨ne_of_isBare hc (by decide), ne_of_isBare hc (by decide)⟩⟩
  · simp only [List.length_append, List.length_cons]
    omega

/-- A line with a header. -/
theorem header (key : String) (hkey : Bare key) (h : Reads rest statements) :
    Reads ('[' :: (key.toList ++ ']' :: '\n' :: rest)) (.openTable [] key :: statements) := by
  refine cons (by decide) (statement?_header hkey rest) ?_ h
  simp only [List.length_append, List.length_cons]
  omega

/-- A file is read as what its statements make. -/
theorem parse? (h : Reads s statements) (hmark : s.head? ≠ some '\uFEFF') :
    parse? s = (Document.ofStatements? statements).map (·.root) := by
  have hskip : skipMark s = s :=
    skipMark.eq_2 s fun t hs => hmark (by rw [hs]; rfl)
  rw [Toml.parse?, hskip]
  simp only [h (s.length + 1) (Nat.lt_succ_self _), Option.bind_eq_bind, Option.bind_some]
  cases Document.ofStatements? statements <;> rfl

end Reads

/-! ### Values -/

/-- A text is written. -/
theorem writes_textForm (s : List Char) : Writes (textForm s) (.string (String.ofList s)) where
  first c h := by
    rcases head?_textForm h with rfl | rfl <;> decide
  read rest := by
    have hrest : Unquoted ('\n' :: rest) := ⟨by simp, by simp⟩
    rw [scalarValue?, text?_textForm s hrest]
    rfl

/-- A truth value is written. -/
theorem writes_true : Writes "true".toList (.boolean true) where
  first := by simp [isGap]
  read rest := by simp [scalarValue?, text?, expect?]

theorem writes_false : Writes "false".toList (.boolean false) where
  first := by simp [isGap]
  read rest := by simp [scalarValue?, text?, expect?]

/-- A number is written, if it lies in 64 bits. -/
theorem writes_toDigits {n : Nat} (h : n ≤ 0x7FFFFFFFFFFFFFFF) :
    Writes (Nat.toDigits 10 n) (.integer n) where
  first c hc := by
    have hdigit : c.isDigit = true :=
      Nat.isDigit_of_mem_toDigits (by decide) (by decide) (List.mem_of_mem_head? hc)
    have hne : ∀ d : Char, d.isDigit = false → c ≠ d := by
      rintro d hd rfl
      rw [hdigit] at hd
      cases hd
    exact ⟨hne _ (by decide), hne _ (by decide),
      isGap_eq_false ⟨hne _ (by decide), hne _ (by decide)⟩⟩
  read := scalarValue?_toDigits h

end EntityResolution.Toml
