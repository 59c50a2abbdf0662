import EntityResolution.Settings.Basic
import EntityResolution.Proofs.Toml.Document

/-!
# The text of settings is read back

`form` writes settings as lines of TOML, and `ofText?` reads the text of a file.  The lines are read
as statements (`reads_form`), the statements make a table (`ofStatements?_statements`), and the
table says the settings again (`ofTable?_table`), whatever the file and the level are called.

* `ofText?_form`: reading undoes writing if the number is one that the format has, but the reader
  refuses the number 0, which the writer does not.
-/

namespace EntityResolution.Settings

open Toml (Table Statement Document Reads Writes Bare)

/-- The lines of the settings, apart from the empty ones. -/
def statements (s : Settings) : List Statement :=
  (match s.cacheFile with
    | none => []
    | some path => [.assign [] "cache_file" (.string path.text)]) ++
  [.openTable [] "resolver",
    .assign [] "candidate_limit" (.integer s.candidateLimit),
    .assign [] "instantiate_missing" (.boolean s.instantiateMissing),
    .openTable [] "logging",
    .assign [] "level" (.string s.level)]

/-- The table that the lines make. -/
def table (s : Settings) : Table where
  entries :=
    (match s.cacheFile with
      | none => []
      | some path => [("cache_file", .string path.text)]) ++
    [("resolver", .table .header
      [("candidate_limit", .integer s.candidateLimit),
        ("instantiate_missing", .boolean s.instantiateMissing)]),
      ("logging", .table .header [("level", .string s.level)])]

theorem writes_flagForm (value : Bool) : Writes (flagForm value) (.boolean value) := by
  cases value with
  | true => exact Toml.writes_true
  | false => exact Toml.writes_false

theorem writes_text (text : String) : Writes (Toml.textForm text.toList) (.string text) := by
  have h := Toml.writes_textForm text.toList
  rwa [String.ofList_toList] at h

theorem writes_number {n : Nat} (h : n ≤ maxNumber) :
    Writes (toString n).toList (.integer n) := by
  rw [Nat.toString_eq_repr, Nat.toList_repr]
  exact Toml.writes_toDigits h

theorem line_append (key : String) (value rest : List Char) :
    line key value ++ rest = key.toList ++ (" = ".toList ++ (value ++ '\n' :: rest)) := by
  simp only [line, List.append_assoc, List.singleton_append]

/-- The lines are read. -/
theorem reads_form {s : Settings} (h : s.candidateLimit ≤ maxNumber) :
    Reads s.form s.statements := by
  have hlevel : Reads (line "level" (Toml.textForm s.level.toList))
      [.assign [] "level" (.string s.level)] := by
    have hread := Reads.nil.assign "level" (by decide) (writes_text s.level)
    rwa [← line_append, List.append_nil] at hread
  have hlogging := (hlevel.header "logging" (by decide)).emptyLine
  have hresolver := ((hlogging.assign "instantiate_missing" (by decide)
    (writes_flagForm s.instantiateMissing)).assign "candidate_limit" (by decide)
    (writes_number h)).header "resolver" (by decide)
  rw [← line_append, ← line_append] at hresolver
  rw [form, statements]
  cases s.cacheFile with
  | none =>
      simp only [List.append_assoc]
      exact hresolver
  | some path =>
      have hfile := hresolver.emptyLine.assign "cache_file" (by decide)
        (writes_text path.text)
      rw [← line_append] at hfile
      simp only [List.append_assoc]
      exact hfile

/-- The statements make the table. -/
theorem ofStatements?_statements (s : Settings) :
    (Document.ofStatements? s.statements).map (·.root) = some s.table := by
  rw [statements, table]
  cases s.cacheFile <;>
    simp [Document.ofStatements?, Document.add?, Table.openTable?, Table.within?, Table.assign?,
      Table.add?, Table.get?, Table.set, Table.toml]

/-- The table says the settings. -/
theorem ofTable?_table (s : Settings) : ofTable? s.table = some s := by
  obtain ⟨cacheFile, limit, instantiate, level⟩ := s
  cases cacheFile <;>
    simp [ofTable?, table, Table.get?, pathOf?, resolverOf?, loggingOf?, Toml.fields?, countOf?,
      flagOf?, textOf?]

/-- No mark of the byte order stands in front. -/
theorem head?_form (s : Settings) : s.form.head? ≠ some '\uFEFF' := by
  rw [form]
  cases s.cacheFile with
  | none => exact nofun
  | some path => exact nofun

/-- **Reading undoes writing**, but a number that is 0 is refused. -/
theorem ofText?_form {s : Settings} (h : s.candidateLimit ≤ maxNumber) :
    ofText? s.form = if s.candidateLimit = 0 then .error .zeroLimit else .ok s := by
  rw [ofText?, (reads_form h).parse? s.head?_form, ofStatements?_statements, Option.bind_some,
    ofTable?_table]

end EntityResolution.Settings
