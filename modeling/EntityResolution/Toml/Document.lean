import EntityResolution.Toml.Number

/-!
# TOML documents

`Toml.parse?` reads a file: statements on lines of their own, with blank lines and comments between
them. Values may nest to a fixed depth, which the reader counts down.
-/

namespace EntityResolution.Toml

/-- The greatest depth of arrays and inline tables in each other. -/
def maxDepth : Nat := 79

/-- The greatest number of keys that dots join. -/
def maxKeys : Nat := 79

/-- Takes spaces and tabs off the front. -/
def skipGap (s : List Char) : List Char := s.dropWhile isGap

/-- Takes a comment off the front, if there is one. -/
def skipComment : List Char → List Char
  | '#' :: rest => rest.dropWhile isPlain
  | s => s

/-- Takes blanks, line ends and comments off the front. -/
def skipLines (inComment : Bool) : List Char → List Char
  | [] => []
  | c :: rest =>
    if c = '\n' then skipLines false rest
    else if returns c rest then skipLines inComment rest
    else if inComment ∧ isPlain c then skipLines true rest
    else if ¬inComment ∧ c = '#' then skipLines true rest
    else if ¬inComment ∧ isGap c then skipLines false rest
    else c :: rest

/-- Takes the end of a statement's line off the front. -/
def endLine? (s : List Char) : Option (List Char) :=
  match skipComment (skipGap s) with
  | [] => some []
  | '\n' :: rest => some rest
  | '\r' :: '\n' :: rest => some rest
  | _ => none

/-- A character of a bare key. -/
def isBare (c : Char) : Bool := c.isAlphanum ∨ c = '-' ∨ c = '_'

/-- Reads one key. -/
def simpleKey? (s : List Char) : Option (String × List Char) :=
  match s with
  | '"' :: rest => (basic? false .plain rest).map fun (text, rest) => (String.ofList text, rest)
  | '\'' :: rest => (literal? false rest).map fun (text, rest) => (String.ofList text, rest)
  | s =>
    let bare := s.takeWhile isBare
    if bare.isEmpty then none else some (String.ofList bare, s.dropWhile isBare)

/-- Reads keys joined by dots, with gaps around each; the last key is apart. -/
def keys? : Nat → Reader (List String × String)
  | 0, _ => none
  | limit + 1, s => do
    let (key, s) ← simpleKey? (skipGap s)
    match skipGap s with
    | '.' :: rest =>
      let ((path, last), rest) ← keys? limit rest
      return ((key :: path, last), rest)
    | rest => return (([], key), rest)

/-- Reads items up to a closing bracket, with commas between them; one more comma may follow. -/
def items? (item : Reader Toml) : Nat → Reader (List Toml)
  | 0, _ => none
  | fuel + 1, s =>
    match skipLines false s with
    | ']' :: rest => some ([], rest)
    | s => do
      let (first, s) ← item s
      match skipLines false s with
      | ']' :: rest => return ([first], rest)
      | ',' :: rest =>
        let (items, rest) ← items? item fuel rest
        return (first :: items, rest)
      | _ => none

/-- Reads a key, an equals sign and a value. -/
def pair? (item : Reader Toml) (s : List Char) :
    Option (((List String × String) × Toml) × List Char) := do
  let (key, s) ← keys? maxKeys s
  let (value, rest) ← item (skipGap (← expect? ['='] s))
  return ((key, value), rest)

/-- Reads keys with their values up to a closing brace, with commas between them. -/
def pairs? (item : Reader Toml) : Nat → Reader (List ((List String × String) × Toml))
  | 0, _ => none
  | fuel + 1, s => do
    let (first, s) ← pair? item s
    match skipGap s with
    | '}' :: rest => return ([first], rest)
    | ',' :: rest =>
      let (pairs, rest) ← pairs? item fuel rest
      return (first :: pairs, rest)
    | _ => none

/-- What stands in a text before the rest of it. -/
def before (s rest : List Char) : String := String.ofList (s.take (s.length - rest.length))

/-- Reads a value that is no array and no inline table. -/
def scalarValue? (s : List Char) : Option (Toml × List Char) :=
  ((text? s).map fun (text, rest) => (.string (String.ofList text), rest)) <|>
    ((expect? "true".toList s).map (.boolean true, ·)) <|>
    ((expect? "false".toList s).map (.boolean false, ·)) <|>
    ((moment? s).map fun rest => (.moment (before s rest), rest)) <|>
    ((float? s).map fun (_, rest) => (.float (before s rest), rest)) <|>
    ((integer? s).map fun (n, rest) => (.integer n, rest))

/-- Reads a value that nests no deeper than given. -/
def value? : Nat → Reader Toml
  | 0, s => scalarValue? s
  | depth + 1, s =>
    match s with
    | '[' :: rest => do
      let (items, rest) ← items? (value? depth) (rest.length + 1) rest
      return (.array items, rest)
    | '{' :: rest =>
      match skipGap rest with
      | '}' :: rest => some (.table .inline [], rest)
      | rest => do
        let (pairs, rest) ← pairs? (value? depth) (rest.length + 1) rest
        return (← inlineTable? pairs, rest)
    | s => scalarValue? s

/-- Reads a statement with the end of its line. -/
def statement? : Reader Statement
  | '[' :: '[' :: rest => do
    let ((path, key), s) ← keys? maxKeys rest
    return (.openItem path key, ← endLine? (← expect? [']', ']'] s))
  | '[' :: rest => do
    let ((path, key), s) ← keys? maxKeys rest
    return (.openTable path key, ← endLine? (← expect? [']'] s))
  | s => do
    let (((path, key), value), s) ← pair? (value? maxDepth) s
    return (.assign path key value, ← endLine? s)

/-- Reads all statements. -/
def statements? : Nat → List Char → Option (List Statement)
  | 0, _ => none
  | fuel + 1, s =>
    match skipLines false s with
    | [] => some []
    | s => do
      let (statement, rest) ← statement? s
      return statement :: (← statements? fuel rest)

/-- Takes a byte order mark off the front. -/
def skipMark : List Char → List Char
  | '\uFEFF' :: rest => rest
  | s => s

/-- The table that a file writes. -/
def parse? (s : List Char) : Option Table := do
  let s := skipMark s
  return (← Document.ofStatements? (← statements? (s.length + 1) s)).root

end EntityResolution.Toml
