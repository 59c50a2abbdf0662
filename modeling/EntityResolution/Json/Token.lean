import EntityResolution.Text.Basic

/-!
# JSON tokens

`Token.scan?` cuts a JSON text into tokens. It is a machine that reads one character at a time:
a `Scanner` holds the tokens found so far and what it is in the middle of.

A string token holds its text; it holds none if an escape names half of a surrogate pair without
the other half, for then the string is well formed and yet no text.
-/

namespace EntityResolution.Json

/-- The words of JSON's grammar. -/
inductive Token where
  | openArray
  | closeArray
  | openObject
  | closeObject
  | colon
  | comma
  | null
  | bool (value : Bool)
  | number (literal : String)
  | string (text : Option String)
deriving DecidableEq

/-- A piece of a string: a character, or half of a surrogate pair. -/
inductive Piece where
  | char (c : Char)
  | half (code : Nat)
deriving DecidableEq

namespace Piece

/-- What a `\u` escape with this code stands for. -/
def ofCode (code : Nat) : Piece :=
  if 0xD800 ≤ code ∧ code ≤ 0xDFFF then half code else char (Char.ofNat code)

/-- The character that two halves make, if they are a high one and a low one. -/
def pair? (high low : Nat) : Option Char :=
  if high ≤ 0xDBFF ∧ 0xDC00 ≤ low then
    some (Char.ofNat (0x10000 + 0x400 * (high - 0xD800) + (low - 0xDC00)))
  else none

/-- The text of a row of pieces, if every half has its other half beside it. -/
def join? : List Piece → Option (List Char)
  | [] => some []
  | char c :: rest => (join? rest).map (c :: ·)
  | half high :: half low :: rest => do return (← pair? high low) :: (← join? rest)
  | half _ :: _ => none

end Piece

/-- Where in a string the scanner is. -/
inductive StringMode where
  | plain
  /-- After a backslash. -/
  | escape
  /-- In a `\u` escape, with so many digits to come. -/
  | code (missing : Nat) (value : Nat)
deriving DecidableEq

/-- Where in a number the scanner is. -/
inductive NumberMode where
  | sign
  | zero
  | whole
  | point
  | fraction
  | exponent
  | exponentSign
  | exponentDigits
deriving DecidableEq

/-- What the scanner is in the middle of; pieces and characters are held last first. -/
inductive Mode where
  | between
  | string (mode : StringMode) (pieces : List Piece)
  | number (mode : NumberMode) (literal : List Char)
  | word (letters : List Char)
deriving DecidableEq

/-- The tokens found, last first, and what follows them. -/
structure Scanner where
  tokens : List Token := []
  mode : Mode := .between
deriving DecidableEq

/-- The characters that may stand between tokens. -/
def isSpace (c : Char) : Bool := c = ' ' ∨ c = '\t' ∨ c = '\n' ∨ c = '\r'

/-- What the character after a backslash stands for, `u` apart. -/
def unescape? : Char → Option Char
  | '"' => some '"'
  | '\\' => some '\\'
  | '/' => some '/'
  | 'b' => some '\x08'
  | 'f' => some '\x0C'
  | 'n' => some '\n'
  | 'r' => some '\r'
  | 't' => some '\t'
  | _ => none

namespace NumberMode

/-- A number may end here. -/
def isComplete : NumberMode → Bool
  | zero | whole | fraction | exponentDigits => true
  | _ => false

/-- How a number goes on with a character, if it does. -/
def next? (mode : NumberMode) (c : Char) : Option NumberMode :=
  let digit := c.isDigit
  match mode with
  | sign => if c = '0' then some zero else if digit then some whole else none
  | zero => if c = '.' then some point else if c = 'e' ∨ c = 'E' then some exponent else none
  | whole =>
    if digit then some whole
    else if c = '.' then some point
    else if c = 'e' ∨ c = 'E' then some exponent
    else none
  | point => if digit then some fraction else none
  | fraction =>
    if digit then some fraction else if c = 'e' ∨ c = 'E' then some exponent else none
  | exponent =>
    if digit then some exponentDigits else if c = '+' ∨ c = '-' then some exponentSign else none
  | exponentSign | exponentDigits => if digit then some exponentDigits else none

end NumberMode

/-- The token that a word stands for. -/
def wordToken? (letters : List Char) : Option Token :=
  match String.ofList letters with
  | "null" => some .null
  | "true" => some (.bool true)
  | "false" => some (.bool false)
  | _ => none

/-- The token that is a single character. -/
def punctuation? : Char → Option Token
  | '[' => some .openArray
  | ']' => some .closeArray
  | '{' => some .openObject
  | '}' => some .closeObject
  | ':' => some .colon
  | ',' => some .comma
  | _ => none

namespace Scanner

/-- Reads a character that starts something new. -/
def begin? (s : Scanner) (c : Char) : Option Scanner :=
  if isSpace c then some { s with mode := .between }
  else if c = '"' then some { s with mode := .string .plain [] }
  else if c = '-' then some { s with mode := .number .sign [c] }
  else if c = '0' then some { s with mode := .number .zero [c] }
  else if c.isDigit then some { s with mode := .number .whole [c] }
  else if c.isLower then some { s with mode := .word [c] }
  else (punctuation? c).map fun t => ⟨t :: s.tokens, .between⟩

/-- Reads a character of a string. -/
def feedString? (s : Scanner) (pieces : List Piece) (c : Char) : StringMode → Option Scanner
  | .plain =>
    if c = '"' then
      some ⟨.string ((Piece.join? pieces.reverse).map String.ofList) :: s.tokens, .between⟩
    else if c = '\\' then some { s with mode := .string .escape pieces }
    else if c.toNat < 0x20 then none
    else some { s with mode := .string .plain (.char c :: pieces) }
  | .escape =>
    if c = 'u' then some { s with mode := .string (.code 4 0) pieces }
    else (unescape? c).map fun e => { s with mode := .string .plain (.char e :: pieces) }
  | .code missing value =>
    (Text.hexValue? c).map fun digit =>
      let value := 16 * value + digit
      if missing ≤ 1 then { s with mode := .string .plain (.ofCode value :: pieces) }
      else { s with mode := .string (.code (missing - 1) value) pieces }

/-- Ends a number or a word, if the scanner is in one and it is complete. -/
def settle? (s : Scanner) : Option Scanner :=
  match s.mode with
  | .between => some s
  | .string .. => none
  | .number mode literal =>
    if mode.isComplete then some ⟨.number (String.ofList literal.reverse) :: s.tokens, .between⟩
    else none
  | .word letters => (wordToken? letters.reverse).map fun t => ⟨t :: s.tokens, .between⟩

/-- Reads one character. -/
def feed? (s : Scanner) (c : Char) : Option Scanner :=
  match s.mode with
  | .between => s.begin? c
  | .string mode pieces => s.feedString? pieces c mode
  | .number mode literal =>
    match mode.next? c with
    | some mode => some { s with mode := .number mode (c :: literal) }
    | none => do (← s.settle?).begin? c
  | .word letters =>
    if c.isLower then some { s with mode := .word (c :: letters) }
    else do (← s.settle?).begin? c

end Scanner

/-- The tokens of a text. -/
def Token.scan? (s : List Char) : Option (List Token) := do
  let scanner ← s.foldlM Scanner.feed? {}
  return (← scanner.settle?).tokens.reverse

end EntityResolution.Json
