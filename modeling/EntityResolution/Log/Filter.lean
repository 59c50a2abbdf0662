import EntityResolution.Pattern.Basic
import EntityResolution.Text.Alphanumeric
import EntityResolution.Text.Basic

/-!
# Log filters

A filter says what is logged: directives between commas, each a level or
`target[span{field}]=level`, of which parts may be missing. Here it only matters how the reading
ends, since the log itself is kept elsewhere.

A directive may ask for a field of a span by its name, and for its value: `name=value`. The value is
a number or a pattern, of which the truth values are two.

The reader finds the ends of the parts in a directive without the blanks around it, but takes the
parts out of the directive as it is written. So blanks in front shift every part to the left, and
an end may come to lie inside a character. Then the filter is torn, and the log does not open.
-/

namespace EntityResolution.Log

/-! ### Fields -/

/-- The text behind its sign, if it has one. -/
def unsigned : List Char → List Char
  | '+' :: rest => rest
  | '-' :: rest => rest
  | s => s

/-- The text is what may stand behind the digits of a number: an exponent or nothing. -/
def isExponent : List Char → Bool
  | [] => true
  | c :: rest =>
    (c = 'e' || c = 'E') && !(unsigned rest).isEmpty && (unsigned rest).all Char.isDigit

/-- The text is a decimal number without a sign. A digit stands on one side of the point at
least. -/
def isDecimal (s : List Char) : Bool :=
  match s.dropWhile Char.isDigit with
  | '.' :: rest =>
    (s.head?.any Char.isDigit || rest.head?.any Char.isDigit) &&
      isExponent (rest.dropWhile Char.isDigit)
  | rest => s.head?.any Char.isDigit && isExponent rest

/-- The words for what is no decimal number. -/
def numberWords : List String := ["inf", "infinity", "nan"]

/-- The text is a number, or a word for one in any case. -/
def isNumber (s : List Char) : Bool :=
  isDecimal (unsigned s) ||
    numberWords.contains (String.ofList ((unsigned s).map Char.toLower))

/-- The text is a field: it is not empty, and what stands behind its first `=`, up to another one,
is a value. -/
def isField (field : List Char) : Bool :=
  !field.isEmpty &&
    match Text.cut '=' field with
    | _ :: value :: _ => isNumber value || Pattern.isWellFormed value
    | _ => true

/-! ### Directives -/

/-- Why a filter is not read. -/
inductive FilterFault where
  | malformed
  /-- The end of a part lies inside a character. -/
  | torn
deriving DecidableEq

/-- What the reader of a directive is in; a part begins behind so many bytes. -/
inductive Part where
  | start
  /-- A level or a target, whichever it turns out to be. -/
  | name
  | span (first : Nat)
  | field (first : Nat)
  | afterFields
  | afterSpan
  | level (first : Nat)
deriving DecidableEq

/-- Takes a part out of a directive as it is written. -/
def takeOut (directive : List Char) (first last : Nat) : Except FilterFault (List Char) :=
  match Text.piece? first last directive with
  | some part => .ok part
  | none => .error .torn

/-- A directive may begin with the character. -/
def isStart (c : Char) : Bool := c = '-' || c = ':' || c = '_' || Text.isAlphanumeric c

/-- Reads a character that stands behind so many bytes. -/
def Part.next (directive : List Char) (offset : Nat) : Part → Char → Except FilterFault Part
  | start, '[' => .ok (span (offset + 1))
  | start, c => if isStart c then .ok name else .error .malformed
  | name, '=' => do
    let _ ← takeOut directive 0 offset
    return level (offset + 1)
  | name, '[' => do
    let _ ← takeOut directive 0 offset
    return span (offset + 1)
  | name, _ => .ok name
  | span first, ']' => do
    let _ ← takeOut directive first offset
    return afterSpan
  | span first, '{' => do
    let _ ← takeOut directive first offset
    return field (offset + 1)
  | span first, _ => .ok (span first)
  | field first, '}' => do
    if isField (← takeOut directive first offset) then return afterFields else throw .malformed
  | field first, _ => .ok (field first)
  | afterFields, ']' => .ok afterSpan
  | afterSpan, '=' => .ok (level (offset + 1))
  | level first, _ => .ok (level first)
  | _, _ => .error .malformed

/-- The names of the levels. -/
def levelNames : List String := ["off", "error", "warn", "info", "debug", "trace"]

/-- The text is the number of a level: one digit behind zeros and a plus that may be missing. -/
def isLevelNumber (s : List Char) : Bool :=
  let digits := if s.head? = some '+' then s.tail else s
  !digits.isEmpty &&
    match digits.dropWhile (· = '0') with
    | [] => true
    | [c] => c.isDigit && c ≤ '5'
    | _ => false

/-- The text is a level: its name in any case, its number, or nothing for the last one. -/
def isLevel (s : List Char) : Bool :=
  s.isEmpty || levelNames.contains (String.ofList (s.map Char.toLower)) || isLevelNumber s

/-- Ends the reading of a directive. -/
def Part.finish (directive : List Char) : Part → Except FilterFault Unit
  | name => .ok ()
  | afterSpan => .ok ()
  | level first =>
    match Text.dropBytes? first directive with
    | none => .error .torn
    | some text => if isLevel text then .ok () else .error .malformed
  | _ => .error .malformed

/-- Reads the characters of a directive, which stand behind so many bytes. -/
def readFrom (directive : List Char) (part : Part) (offset : Nat) :
    List Char → Except FilterFault Unit
  | [] => part.finish directive
  | c :: rest => do readFrom directive (← part.next directive offset c) (offset + c.utf8Size) rest

/-- Reads a directive. -/
def readDirective (directive : List Char) : Except FilterFault Unit :=
  readFrom directive .start 0 (Text.trim directive)

/-- Reads a filter, up to the first directive that fails. -/
def readFilter (filter : List Char) : Except FilterFault Unit :=
  ((Text.cut ',' filter).filter (!·.isEmpty)).forM readDirective

/-- The log opens: no filter that is read is torn. The one of the environment comes first; the one
of the settings is read when there is no other, or when that is malformed. -/
def opens (given? : Option String) (level : String) : Bool :=
  match given?.map fun text => readFilter text.toList with
  | some (.ok ()) => true
  | some (.error .torn) => false
  | _ =>
    match readFilter level.toList with
    | .error .torn => false
    | _ => true

end EntityResolution.Log
