import EntityResolution.Pattern.Escape

/-!
# Brackets of a pattern

A bracket holds characters, ranges, named classes and other brackets, and joins such sets with the
operators `&&`, `--` and `~~`, which bind alike and to the left. Complements are refused where
classes are of bytes, since they would hold bytes that are not text.
-/

namespace EntityResolution.Pattern

/-- What is read of a bracket. -/
structure Bracket where
  /-- Only minus signs stand in it so far. -/
  fresh : Bool := true
  /-- The depth of what stands in front of the last operator. -/
  before? : Option Nat := none
  /-- The items behind the last operator. -/
  items : Parts := {}
deriving DecidableEq

namespace Bracket

/-- The depth of what is in the bracket. -/
def depth (b : Bracket) : Nat :=
  match b.before? with
  | none => b.items.depth
  | some before => max before b.items.depth + 1

/-- The bracket with one more item. -/
def add (b : Bracket) (depth : Nat) : Bracket :=
  { b with fresh := false, items := b.items.add depth }

/-- The bracket behind one more operator. -/
def operate (b : Bracket) : Bracket := ⟨false, some b.depth, {}⟩

/-- The character stands for itself because of its place: a minus sign in front of all else, or a
closing mark as the first item. -/
def takesAsIs (b : Bracket) (c : Char) : Bool :=
  b.fresh && (c = '-' || (c = ']' && b.items.count = 0))

/-- The bracket with one more character that stands for itself because of its place. -/
def addAsIs (b : Bracket) (c : Char) : Bracket := { b.add 0 with fresh := c = '-' }

/-! ### Items -/

/-- The names of classes. -/
def names : List String :=
  ["alnum", "alpha", "ascii", "blank", "cntrl", "digit", "graph", "lower", "print", "punct",
    "space", "upper", "word", "xdigit"]

/-- Reads a named class behind its bracket; whether it is complemented, and the rest. -/
def named? : List Char → Option (Bool × List Char)
  | ':' :: rest =>
    let (complement, rest) :=
      match rest with
      | '^' :: rest => (true, rest)
      | _ => (false, rest)
    match rest.dropWhile (· ≠ ':') with
    | ':' :: ']' :: behind =>
      if names.contains (String.ofList (rest.takeWhile (· ≠ ':'))) then some (complement, behind)
      else none
    | _ => none
  | _ => none

/-- Reads a character, or a shorthand class in its place. -/
def member? (flags : Flags) : List Char → Option (Option Char × List Char)
  | [] => none
  | '\\' :: rest => do
    match ← Escape.read? flags rest with
    | (.char c, rest) => if flags.holds c then some (some c, rest) else none
    | (.shorthand, rest) => some (none, rest)
    | (.edge, _) => none
  | c :: rest => if flags.holds c then some (some c, rest) else none

/-- Reads a character, a shorthand class or a range of characters; the rest. A minus sign makes no
range when the bracket ends behind it or another one follows. -/
def range? (flags : Flags) (text : List Char) : Option (List Char) := do
  let (first, rest) ← member? flags text
  match flags.skip rest with
  | '-' :: behind =>
    if flags.peek? behind = some ']' ∨ flags.peek? behind = some '-' then some ('-' :: behind)
    else do
      let (last, rest) ← member? flags (flags.skip behind)
      if (← first) ≤ (← last) then some rest else none
  | rest => some rest

/-- Goes into a bracket, behind the mark of a complement if there is one. -/
def enter? (flags : Flags) (text : List Char) : Option (List Char) :=
  match flags.skip text with
  | '^' :: rest => if flags.unicode then some rest else none
  | rest => some rest

/-- Reads to the end of the brackets that are open, of which `outer` are around this one, innermost
first. The answer is the depth of the outermost and the rest. Each step takes a character, so
`fuel` above the length of the text is enough. -/
def readFrom (flags : Flags) :
    (fuel : Nat) → (outer : List Bracket) → (here : Bracket) → (text : List Char) →
      Option (Nat × List Char)
  | 0, _, _, _ => none
  | fuel + 1, outer, here, text =>
    match flags.skip text with
    | [] => none
    | c :: rest =>
      if here.takesAsIs c then
        if flags.holds c then readFrom flags fuel outer (here.addAsIs c) rest else none
      else if c = ']' then
        match outer with
        | [] => some (here.depth + 1, rest)
        | next :: outer => readFrom flags fuel outer (next.add (here.depth + 1)) rest
      else if c = '[' then
        match named? rest with
        | some (complement, rest) =>
          if flags.readsChars && (flags.unicode || !complement) then
            readFrom flags fuel outer (here.add 0) rest
          else none
        | none => do readFrom flags fuel (here :: outer) {} (← enter? flags rest)
      else if (c = '&' ∨ c = '-' ∨ c = '~') ∧ rest.head? = some c then
        readFrom flags fuel outer here.operate rest.tail
      else do readFrom flags fuel outer (here.add 0) (← range? flags (c :: rest))

/-- Reads a bracket behind its opening mark; its depth and the rest. -/
def read? (flags : Flags) (text : List Char) : Option (Nat × List Char) := do
  readFrom flags (text.length + 1) [] {} (← enter? flags text)

end Bracket

end EntityResolution.Pattern
