import EntityResolution.Json.Token
import EntityResolution.Text.Basic

/-!
# JSON values

`Json.parse?` reads one value. It is a machine over tokens: a `Builder` says what may come next
and holds the containers that are still open, so that depth costs no recursion. Members keep
their order, and a key may come twice.

Strings, arrays and objects are written as texts without spaces. A string is escaped where JSON
asks for it: quote, backslash and the characters below U+0020, these by a letter where there is one.
-/

namespace EntityResolution

/-- A JSON value. A string or key that is no text is `none`. -/
inductive Json where
  | null
  | bool (value : Bool)
  | number (literal : String)
  | string (text : Option String)
  | array (items : List Json)
  | object (members : List (Option String × Json))

namespace Json

/-- A container that waits for a value; its contents are held last first. -/
inductive Frame where
  | array (items : List Json)
  | member (members : List (Option String × Json)) (key : Option String)

/-- What may come next, and the containers that are open, the innermost first. -/
inductive Builder where
  | value (stack : List Frame)
  | firstItem (stack : List Frame)
  | afterItem (items : List Json) (stack : List Frame)
  | firstKey (stack : List Frame)
  | key (members : List (Option String × Json)) (stack : List Frame)
  | colon (members : List (Option String × Json)) (key : Option String) (stack : List Frame)
  | afterMember (members : List (Option String × Json)) (stack : List Frame)
  | done (value : Json)

namespace Builder

/-- Hands a finished value to the container that waits for it. -/
def put (v : Json) : List Frame → Builder
  | [] => done v
  | .array items :: stack => afterItem (v :: items) stack
  | .member members name :: stack => afterMember ((name, v) :: members) stack

/-- Reads a token that starts a value. -/
def begin? (stack : List Frame) : Token → Option Builder
  | .openArray => some (firstItem stack)
  | .openObject => some (firstKey stack)
  | .null => some (put .null stack)
  | .bool b => some (put (.bool b) stack)
  | .number literal => some (put (.number literal) stack)
  | .string text => some (put (.string text) stack)
  | _ => none

/-- Reads one token. -/
def feed? : Builder → Token → Option Builder
  | value stack, t => begin? stack t
  | firstItem stack, .closeArray => some (put (.array []) stack)
  | firstItem stack, t => begin? (.array [] :: stack) t
  | afterItem items stack, .comma => some (value (.array items :: stack))
  | afterItem items stack, .closeArray => some (put (.array items.reverse) stack)
  | firstKey stack, .closeObject => some (put (.object []) stack)
  | firstKey stack, .string text => some (colon [] text stack)
  | key members stack, .string text => some (colon members text stack)
  | colon members text stack, .colon => some (value (.member members text :: stack))
  | afterMember members stack, .comma => some (key members stack)
  | afterMember members stack, .closeObject => some (put (.object members.reverse) stack)
  | _, _ => none

/-- The value, once it is complete. -/
def finish? : Builder → Option Json
  | done v => some v
  | _ => none

end Builder

/-- The value that a row of tokens writes. -/
def ofTokens? (tokens : List Token) : Option Json := do
  (← tokens.foldlM Builder.feed? (.value [])).finish?

/-- The value that a text writes. -/
def parse? (s : List Char) : Option Json := (Token.scan? s).bind ofTokens?

/-- The text of a string. -/
def text? : Json → Option String
  | string text => text
  | _ => none

/-- The values of named fields, from an object or from an array in the order of the names. An
object may have further members but none of the fields twice, and all its keys are texts; an
array may be short but not long. -/
def fields? (names : List String) : Json → Option (List (Option Json))
  | object members =>
    if members.all (·.1.isSome) ∧ names.all (fun n => members.countP (·.1 == some n) ≤ 1) then
      some (names.map fun n => (members.find? (·.1 == some n)).map (·.2))
    else none
  | array items =>
    if items.length ≤ names.length then
      some (items.map some ++ List.replicate (names.length - items.length) none)
    else none
  | _ => none

end Json

end EntityResolution

namespace EntityResolution.Json

/-! ### Writing -/

/-- How a character stands in a string. -/
def escapeChar (c : Char) : List Char :=
  if c = '"' then ['\\', '"']
  else if c = '\\' then ['\\', '\\']
  else if c = '\x08' then ['\\', 'b']
  else if c = '\x0C' then ['\\', 'f']
  else if c = '\n' then ['\\', 'n']
  else if c = '\r' then ['\\', 'r']
  else if c = '\t' then ['\\', 't']
  else if c.toNat < 0x20 then '\\' :: 'u' :: Text.hexDigits 4 c.toNat
  else [c]

/-- A string between quotes. -/
def quote (s : String) : List Char := '"' :: s.toList.flatMap escapeChar ++ ['"']

/-- Texts with commas between them. -/
def commaSeparated (texts : List (List Char)) : List Char := [','].intercalate texts

/-- An array of items that are written already. -/
def arrayText (items : List (List Char)) : List Char := '[' :: commaSeparated items ++ [']']

/-- An object of values that are written already. -/
def objectText (members : List (String × List Char)) : List Char :=
  '{' :: commaSeparated (members.map fun (key, value) => quote key ++ ':' :: value) ++ ['}']

end EntityResolution.Json
