import EntityResolution.Text.Basic
import EntityResolution.Toml.Basic

/-!
# TOML strings

A basic string stands between double quotes and has escapes; a literal one stands between
apostrophes and has none. Either may take several lines between three quotes. `Toml.text?` reads
all four, and `Toml.textForm` writes a text in the plainest of them that can hold it.
-/

namespace EntityResolution.Toml

/-- Takes a value off the front of a text. -/
abbrev Reader (α : Type) : Type := List Char → Option (α × List Char)

/-- A character that stands for itself in strings and comments. -/
def isPlain (c : Char) : Bool := c = '\t' ∨ (0x20 ≤ c.toNat ∧ c.toNat ≠ 0x7F)

/-- A blank within a line. -/
def isGap (c : Char) : Bool := c = ' ' ∨ c = '\t'

/-- The character is a carriage return and a line feed follows, so that both are one line end. -/
def returns (c : Char) (rest : List Char) : Bool := c = '\r' ∧ rest.head? = some '\n'

/-- Puts a character in front of what is read. -/
def push (c : Char) (result : Option (List Char × List Char)) : Option (List Char × List Char) :=
  result.map fun (text, rest) => (c :: text, rest)

/-- The character with a number, if there is one. -/
def scalar? (n : Nat) : Option Char :=
  if n < 0xD800 ∨ (0xDFFF < n ∧ n < 0x110000) then some (Char.ofNat n) else none

/-- What a letter after a backslash stands for. -/
def unescape? : Char → Option Char
  | 'b' => some '\x08'
  | 't' => some '\t'
  | 'n' => some '\n'
  | 'f' => some '\x0C'
  | 'r' => some '\r'
  | '"' => some '"'
  | '\\' => some '\\'
  | _ => none

/-- Where in a basic string the reader is. -/
inductive StringMode where
  | plain
  /-- After a backslash. -/
  | escape
  /-- In the number of a character, with so many digits to come. -/
  | code (missing : Nat) (value : Nat)
  /-- After a backslash that joins lines, still on its line. -/
  | lineEnd
  /-- After that line. -/
  | margin
deriving DecidableEq

/-- The end of a string at a quote: one quote, or three with up to two quotes of the text before
them. -/
def ending? (multi : Bool) (quote : Char) (s : List Char) : Option (List Char × List Char) :=
  if multi then
    let run := (s.takeWhile (· = quote)).length
    if run < 3 then none
    else
      let kept := min (run - 3) 2
      some (List.replicate kept quote, s.drop (kept + 3))
  else some ([], s.drop 1)

/-- Reads a basic string after its opening quotes. -/
def basic? (multi : Bool) : StringMode → Reader (List Char)
  | _, [] => none
  | .code missing value, c :: rest => do
    let value := 16 * value + (← Text.hexValue? c)
    if missing ≤ 1 then push (← scalar? value) (basic? multi .plain rest)
    else basic? multi (.code (missing - 1) value) rest
  | .escape, c :: rest =>
    if c = 'u' then basic? multi (.code 4 0) rest
    else if c = 'U' then basic? multi (.code 8 0) rest
    else
      match unescape? c with
      | some e => push e (basic? multi .plain rest)
      | none =>
        if multi ∧ c = '\n' then basic? multi .margin rest
        else if multi ∧ (isGap c ∨ returns c rest) then basic? multi .lineEnd rest
        else none
  | .lineEnd, c :: rest =>
    if c = '\n' then basic? multi .margin rest
    else if isGap c ∨ returns c rest then basic? multi .lineEnd rest
    else none
  | mode, c :: rest =>
    if mode = .margin ∧ (isGap c ∨ c = '\n' ∨ returns c rest) then basic? multi .margin rest
    else if c = '\\' then basic? multi .escape rest
    else if c = '"' then
      match ending? multi '"' (c :: rest) with
      | some found => some found
      | none => push c (basic? multi .plain rest)
    else if isPlain c ∨ (multi ∧ c = '\n') then push c (basic? multi .plain rest)
    else if multi ∧ returns c rest then basic? multi .plain rest
    else none

/-- Reads a literal string after its opening apostrophes. -/
def literal? (multi : Bool) : Reader (List Char)
  | [] => none
  | c :: rest =>
    if c = '\'' then
      match ending? multi '\'' (c :: rest) with
      | some found => some found
      | none => push c (literal? multi rest)
    else if isPlain c ∨ (multi ∧ c = '\n') then push c (literal? multi rest)
    else if multi ∧ returns c rest then literal? multi rest
    else none

/-- Drops a line end that follows three opening quotes. -/
def dropLineEnd : List Char → List Char
  | '\n' :: rest => rest
  | '\r' :: '\n' :: rest => rest
  | s => s

/-- Reads a string in any form. -/
def text? : Reader (List Char)
  | '"' :: '"' :: '"' :: rest => basic? true .plain (dropLineEnd rest)
  | '"' :: rest => basic? false .plain rest
  | '\'' :: '\'' :: '\'' :: rest => literal? true (dropLineEnd rest)
  | '\'' :: rest => literal? false rest
  | _ => none

/-- The length of the longest run of a character. -/
def longestRun (quote : Char) : List Char → Nat
  | [] => 0
  | c :: rest => max ((c :: rest).takeWhile (· = quote)).length (longestRun quote rest)

/-- A control character that has to be escaped. -/
def isControl (c : Char) : Bool := !isPlain c && c != '\n'

/-- How a character other than the quote is written in a basic string. -/
def escape (multi : Bool) (c : Char) : List Char :=
  if c = '\x08' then ['\\', 'b']
  else if c = '\t' then ['\\', 't']
  else if c = '\n' then if multi then ['\n'] else ['\\', 'n']
  else if c = '\x0C' then ['\\', 'f']
  else if c = '\r' then ['\\', 'r']
  else if c = '\\' then ['\\', '\\']
  else if isPlain c then [c]
  else '\\' :: 'u' :: (Text.hexDigits 4 c.toNat).map Char.toUpper

/-- The text of a basic string between its quotes; as many quotes as may stand bare in a row do so,
given how many stand there already. -/
def basicBody (multi : Bool) : Nat → List Char → List Char
  | _, [] => []
  | run, c :: rest =>
    if c = '"' then
      if run < (if multi then 2 else 0) then '"' :: basicBody multi (run + 1) rest
      else '\\' :: '"' :: basicBody multi 0 rest
    else escape multi c ++ basicBody multi 0 rest

/-- A text between quotes, on a line of its own if it has several lines. -/
def quoted (s : List Char) (quotes body : List Char) : List Char :=
  quotes ++ (if quotes.length = 3 ∧ '\n' ∈ s then ['\n'] else []) ++ body ++ quotes

/-- A text as a string: basic without escapes if it can be, else literal, else the same between
three quotes, else basic with escapes. -/
def textForm (s : List Char) : List Char :=
  let control := s.any isControl
  let lines := '\n' ∈ s
  let basic (multi : Bool) : List Char :=
    quoted s (List.replicate (if multi then 3 else 1) '"') (basicBody multi 0 s)
  let literal (multi : Bool) : List Char :=
    quoted s (List.replicate (if multi then 3 else 1) '\'') s
  if control then basic lines
  else if '\\' ∉ s ∧ '"' ∉ s ∧ ¬lines then basic false
  else if '\'' ∉ s ∧ ¬lines then literal false
  else if '\\' ∉ s ∧ longestRun '"' s ≤ 2 then basic true
  else if longestRun '\'' s ≤ 2 then literal true
  else basic lines

end EntityResolution.Toml
