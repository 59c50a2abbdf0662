import EntityResolution.Text.Basic

/-!
# Escapes of a pattern

A backslash takes the meaning from a mark and gives one to a letter. Digits would refer back to a
group and properties of Unicode need its tables, so both are refused, as are shorthand classes and
edges of words while characters are Unicode's.

What an escape stands for hangs on the flags. They say how the characters of a pattern are taken,
and are switched inside the pattern, up to the end of the group. The language has no tables of
Unicode: what needs one, such as letters in any case while characters are Unicode's, is refused.

A pattern is also limited in how deep its constructs lie in each other. A lone part of a construct
does not make it deeper, since it stands for itself.
-/

namespace EntityResolution.Pattern

/-! ### Depth -/

/-- The parts of a construct: how many there are, and how deep the deepest is. -/
structure Parts where
  count : Nat := 0
  deepest : Nat := 0
deriving DecidableEq

/-- The parts with one more behind them. -/
def Parts.add (p : Parts) (depth : Nat) : Parts := ⟨p.count + 1, max p.deepest depth⟩

/-- The parts when the last one is wrapped in a construct, which makes it so deep. -/
def Parts.deepen (p : Parts) (depth : Nat) : Parts := ⟨p.count, max p.deepest depth⟩

/-- The depth of the parts together. -/
def Parts.depth (p : Parts) : Nat := if p.count ≤ 1 then p.deepest else p.deepest + 1

/-- How deep a pattern may be. -/
def depthLimit : Nat := 250

/-! ### Flags -/

/-- The flags that decide what may stand in a pattern. -/
structure Flags where
  /-- A letter stands for both of its cases. -/
  anyCase : Bool := false
  /-- Characters are Unicode's; otherwise classes are of bytes. -/
  unicode : Bool := true
  /-- Blanks between the items are left out, and comments with them. -/
  spaced : Bool := false
deriving DecidableEq

namespace Flags

/-- Characters may stand for themselves: their cases are known, or do not matter. -/
def readsChars (flags : Flags) : Bool := !(flags.anyCase && flags.unicode)

/-- The character may stand in a bracket, where bytes beyond ASCII would not be text. -/
def holds (flags : Flags) (c : Char) : Bool := flags.readsChars && (flags.unicode || c.toNat < 0x80)

/-! ### Switches -/

/-- The letters of the flags, also of those that refuse no pattern. -/
def letters : List Char := ['i', 'm', 's', 'U', 'u', 'R', 'x']

/-- What a flag is after some are turned on and some off. -/
def after (on off : List Char) (letter : Char) (flag : Bool) : Bool :=
  on.contains letter || (flag && !off.contains letter)

/-- The flags after some are turned on and some off. -/
def turn (flags : Flags) (on off : List Char) : Flags where
  anyCase := after on off 'i' flags.anyCase
  unicode := after on off 'u' flags.unicode
  spaced := after on off 'x' flags.spaced

/-- The letters are those of flags, each at most once. -/
def areLetters (s : List Char) : Bool := s.all letters.contains && s.all (s.count · = 1)

/-- Reads a switch: flags to turn on, and those to turn off behind a minus, which must not end it. -/
def switch? (flags : Flags) (text : List Char) : Option Flags :=
  match Text.cut '-' text with
  | [on] => if areLetters on then some (flags.turn on []) else none
  | [on, off] => if areLetters (on ++ off) && !off.isEmpty then some (flags.turn on off) else none
  | _ => none

/-! ### Blanks -/

/-- The text without the blanks and comments in front; a comment ends with its line. -/
def dropSpace (inComment : Bool) : List Char → List Char
  | [] => []
  | c :: rest =>
    if inComment then dropSpace (c ≠ '\n') rest
    else if c = '#' then dropSpace true rest
    else if Text.isBlank c then dropSpace false rest
    else c :: rest

/-- The text from the next character that counts. -/
def skip (flags : Flags) (text : List Char) : List Char :=
  if flags.spaced then dropSpace false text else text

/-- The character to look ahead at: the next that is no blank. Of a comment only its sign is passed
over. -/
def peek? (flags : Flags) (text : List Char) : Option Char :=
  if flags.spaced then
    match text.dropWhile Text.isBlank with
    | '#' :: rest => (rest.dropWhile Text.isBlank).head?
    | rest => rest.head?
  else text.head?

end Flags

/-! ### Escapes -/

/-- What an escape stands for. -/
inductive Escape where
  | char (c : Char)
  /-- A place between characters. -/
  | edge
  /-- A class of ASCII characters. -/
  | shorthand
deriving DecidableEq

namespace Escape

/-- Reads what a single character behind a backslash stands for. -/
def ofChar? (flags : Flags) (c : Char) : Option Escape :=
  match c with
  | 'a' => some (.char '\x07')
  | 'f' => some (.char '\x0c')
  | 't' => some (.char '\t')
  | 'n' => some (.char '\n')
  | 'r' => some (.char '\r')
  | 'v' => some (.char '\x0b')
  | 'A' | 'z' => some .edge
  | 'b' | 'B' | '<' | '>' => if flags.unicode then none else some .edge
  | 'd' | 's' | 'w' => if flags.unicode then none else some .shorthand
  | c => if c.toNat < 0x80 && !c.isAlphanum then some (.char c) else none

/-- Reads the number of a character: so many hexadecimal digits, behind those of `value`. -/
def code? (flags : Flags) : Nat → Nat → List Char → Option (Nat × List Char)
  | 0, value, text => some (value, text)
  | digits + 1, value, text =>
    match flags.skip text with
    | [] => none
    | c :: rest => do code? flags digits (16 * value + (← Text.hexValue? c)) rest

/-- Reads a character by its number. -/
def numbered? (flags : Flags) (digits : Nat) (text : List Char) : Option (Char × List Char) := do
  let (n, rest) ← code? flags digits 0 text
  if n.isValidChar then some (Char.ofNat n, rest) else none

/-- Reads an escape behind its backslash. Two digits are the number of a byte when characters are
not Unicode's, and a byte beyond ASCII is no text. -/
def read? (flags : Flags) : List Char → Option (Escape × List Char)
  | 'x' :: rest => do
    let (c, rest) ← numbered? flags 2 rest
    if flags.unicode || c.toNat < 0x80 then some (.char c, rest) else none
  | 'u' :: rest => (numbered? flags 4 rest).map fun (c, rest) => (.char c, rest)
  | 'U' :: rest => (numbered? flags 8 rest).map fun (c, rest) => (.char c, rest)
  | c :: rest => (ofChar? flags c).map fun escape => (escape, rest)
  | [] => none

end Escape

end EntityResolution.Pattern
