import EntityResolution.Pattern.Bracket
import EntityResolution.Text.Alphanumeric

/-!
# Patterns

A pattern is a regular expression. Here it only matters whether a text is one: its groups and
brackets close, each repetition follows an item, no two groups have one name, and it is not too
deep.

A group has branches, and a branch has items in a row. It opens with a parenthesis, behind which it
may be named or switch flags for itself; a switch alone is for the rest of the group around it.
-/

namespace EntityResolution.Pattern

/-! ### Openings -/

/-- What a parenthesis opens. -/
inductive Opening where
  | group (flags : Flags)
  | named (name : List Char)
  /-- No group: flags for what follows. -/
  | switch (flags : Flags)
deriving DecidableEq

namespace Opening

/-- A name may begin with the character. -/
def isFirst (c : Char) : Bool := c = '_' || Text.isAlphabetic c

/-- A name may go on with the character. -/
def isLater (c : Char) : Bool := c = '_' || c = '.' || c = '[' || c = ']' || Text.isAlphanumeric c

/-- Reads a name up to its end mark. -/
def named? (text : List Char) : Option (Opening × List Char) :=
  match text.takeWhile (· ≠ '>'), text.dropWhile (· ≠ '>') with
  | c :: name, _ :: rest =>
    if isFirst c && name.all isLater then some (.named (c :: name), rest) else none
  | _, _ => none

/-- Reads a switch up to its end mark, which tells whether a group follows. -/
def switch? (flags : Flags) (text : List Char) : Option (Opening × List Char) := do
  let isSwitch (c : Char) : Bool := c ≠ ':' ∧ c ≠ ')'
  let letters := text.takeWhile isSwitch
  let inner ← flags.switch? letters
  match text.dropWhile isSwitch with
  | ':' :: rest => some (.group inner, rest)
  | ')' :: rest => if letters.isEmpty then none else some (.switch inner, rest)
  | _ => none

/-- Reads what a parenthesis opens, behind it. A pattern cannot look around, so the marks for that
are read as a name or a switch, and refused. -/
def read? (flags : Flags) (text : List Char) : Option (Opening × List Char) :=
  match flags.skip text with
  | '?' :: 'P' :: '<' :: rest => named? rest
  | '?' :: '<' :: rest => named? rest
  | '?' :: rest => switch? flags rest
  | rest => some (.group flags, rest)

end Opening

/-! ### Items in a row -/

/-- What is read of a group. -/
structure Group where
  /-- The flags for what follows. -/
  flags : Flags := {}
  /-- The branches before this one. -/
  branches : Parts := {}
  /-- The items of this branch. -/
  row : Parts := {}
  /-- The depth of the last item, when it may be repeated. -/
  last? : Option Nat := none
deriving DecidableEq

namespace Group

/-- The depth of what is in the group. -/
def depth (g : Group) : Nat := (g.branches.add g.row.depth).depth

/-- The group with one more item. -/
def add (g : Group) (depth : Nat) : Group := { g with row := g.row.add depth, last? := some depth }

/-- The group with flags switched, which counts as an item but cannot be repeated. -/
def switch (g : Group) (flags : Flags) : Group :=
  { g with flags := flags, row := g.row.add 0, last? := none }

/-- The group in its next branch. -/
def branch (g : Group) : Group :=
  { g with branches := g.branches.add g.row.depth, row := {}, last? := none }

/-- The group with its last item repeated. -/
def repeated? (g : Group) : Option Group :=
  g.last?.map fun depth =>
    { g with row := g.row.deepen (depth + 1), last? := some (depth + 1) }

/-- Reads an item that is no group, or the repetition of the last one. A question mark behind a
repetition belongs to it. A counted repetition is refused: its closing brace is never part of the
text. -/
def read? (g : Group) : List Char → Option (Group × List Char)
  | [] => none
  | '{' :: _ => none
  | '[' :: rest => do
    let (depth, rest) ← Bracket.read? g.flags rest
    return (g.add depth, rest)
  | '\\' :: rest => do
    match ← Escape.read? g.flags rest with
    | (.char _, rest) => if g.flags.readsChars then some (g.add 0, rest) else none
    | (_, rest) => some (g.add 0, rest)
  | '.' :: rest => if g.flags.unicode then some (g.add 0, rest) else none
  | c :: rest =>
    if c = '?' ∨ c = '*' ∨ c = '+' then do
      return (← g.repeated?, if rest.head? = some '?' then rest.tail else rest)
    else if c = '^' ∨ c = '$' ∨ g.flags.readsChars then some (g.add 0, rest)
    else none

end Group

/-! ### The whole pattern -/

/-- Reads to the end of a pattern inside `here`, around which `outer` are open, innermost first. The
groups before have the names. Each step takes a character, so `fuel` above the length of the text
is enough. -/
def readFrom : (fuel : Nat) → (outer : List Group) → (here : Group) → (names : List (List Char)) →
    (text : List Char) → Bool
  | 0, _, _, _, _ => false
  | fuel + 1, outer, here, names, text =>
    match here.flags.skip text with
    | [] => outer.isEmpty && here.depth ≤ depthLimit
    | '(' :: rest =>
      match Opening.read? here.flags rest with
      | none => false
      | some (.switch flags, rest) => readFrom fuel outer (here.switch flags) names rest
      | some (.group flags, rest) => readFrom fuel (here :: outer) { flags } names rest
      | some (.named name, rest) =>
        !names.contains name &&
          readFrom fuel (here :: outer) { flags := here.flags } (name :: names) rest
    | ')' :: rest =>
      match outer with
      | [] => false
      | next :: outer => readFrom fuel outer (next.add (here.depth + 1)) names rest
    | '|' :: rest => readFrom fuel outer here.branch names rest
    | rest =>
      match here.read? rest with
      | none => false
      | some (here, rest) => readFrom fuel outer here names rest

/-- The text is a pattern. -/
def isWellFormed (text : List Char) : Bool := readFrom (text.length + 1) [] {} [] text

end EntityResolution.Pattern
