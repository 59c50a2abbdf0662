import EntityResolution.Toml.Text

/-!
# TOML numbers, dates and times

Integers are decimal with a sign, or hexadecimal, octal or binary without one, and lie in 64 bits.
A float is decimal and must not be too large for a double. A single underscore may stand between
two digits.

A moment is a date, a time of the day, or a date with a time and perhaps an offset. Days fit their
month, and a second may be the sixtieth.
-/

namespace EntityResolution.Toml

/-! ### Numbers -/

/-- Takes a given text off the front. -/
def expect? : List Char → List Char → Option (List Char)
  | [], s => some s
  | w :: word, c :: rest => if w = c then expect? word rest else none
  | _ :: _, [] => none

/-- Digits after a digit, without the underscores between them, and what follows them. -/
def moreDigits (isDigit : Char → Bool) : List Char → List Char × List Char
  | [] => ([], [])
  | c :: rest =>
    if isDigit c then
      let (digits, rest) := moreDigits isDigit rest
      (c :: digits, rest)
    else if c = '_' ∧ rest.head?.any isDigit then moreDigits isDigit rest
    else ([], c :: rest)

/-- Reads one or more digits. -/
def digits? (isDigit : Char → Bool) : Reader (List Char)
  | [] => none
  | c :: rest => if isDigit c then some (moreDigits isDigit (c :: rest)) else none

/-- The number that digits write in a base. -/
def number (base : Nat) (digits : List Char) : Nat :=
  digits.foldl (fun n c => base * n + (Text.hexValue? c).getD 0) 0

/-- A sign, if there is one: it is a minus. -/
def sign : List Char → Bool × List Char
  | '-' :: rest => (true, rest)
  | '+' :: rest => (false, rest)
  | s => (false, s)

/-- Reads the digits of a decimal number without a useless zero in front. -/
def whole? : Reader (List Char)
  | '0' :: rest => some (['0'], rest)
  | s => digits? Char.isDigit s

/-- The number is a signed one of 64 bits. -/
def fits (n : Int) : Bool := -0x8000000000000000 ≤ n ∧ n ≤ 0x7FFFFFFFFFFFFFFF

/-- Reads an integer with a base named in front. -/
def prefixed? (base : Nat) (isDigit : Char → Bool) (s : List Char) : Option (Int × List Char) := do
  let (digits, rest) ← digits? isDigit s
  return (number base digits, rest)

/-- Reads an integer of any size. -/
def anyInteger? : Reader Int
  | '0' :: 'x' :: rest => prefixed? 16 (fun c => (Text.hexValue? c).isSome) rest
  | '0' :: 'o' :: rest => prefixed? 8 (fun c => '0' ≤ c ∧ c ≤ '7') rest
  | '0' :: 'b' :: rest => prefixed? 2 (fun c => c = '0' ∨ c = '1') rest
  | s => do
    let (negative, s) := sign s
    let (digits, rest) ← whole? s
    let n : Int := number 10 digits
    return (if negative then -n else n, rest)

/-- Reads an integer. -/
def integer? (s : List Char) : Option (Int × List Char) := do
  let (n, rest) ← anyInteger? s
  if fits n then return (n, rest) else none

/-- Reads the digits behind a point. -/
def fraction? : Reader (List Char)
  | '.' :: rest => digits? Char.isDigit rest
  | _ => none

/-- Reads an exponent. -/
def exponent? : Reader Int
  | c :: rest =>
    if c = 'e' ∨ c = 'E' then do
      let (negative, rest) := sign rest
      let (digits, rest) ← digits? Char.isDigit rest
      let n : Int := number 10 digits
      return (if negative then -n else n, rest)
    else none
  | [] => none

/-- The least number, in magnitude, that rounds to an infinite double. -/
def infinite : Nat := Nat.pow 2 1024 - Nat.pow 2 970

/-- The decimal rounds to an infinite double. -/
def isInfinite (digits : Nat) (exponent : Int) : Bool :=
  if digits = 0 then false
  else if 400 < exponent then true
  else if 0 ≤ exponent then infinite ≤ digits * Nat.pow 10 exponent.toNat
  else if (Nat.log2 digits : Int) < -exponent then false
  else infinite * Nat.pow 10 (-exponent).toNat ≤ digits

/-- Reads a decimal number that has a fraction or an exponent; a positive one has to fit into a
double. -/
def decimal? (s : List Char) : Option (Unit × List Char) := do
  let (negative, s) := sign s
  let (whole, s) ← whole? s
  let (fraction, s) := (fraction? s).getD ([], s)
  let (exponent, rest) ←
    match exponent? s with
    | some found => some found
    | none => if fraction.isEmpty then none else some (0, s)
  let digits := number 10 (whole ++ fraction)
  if !negative && isInfinite digits (exponent - fraction.length) then none else return ((), rest)

/-- Reads the words for what is no number. -/
def special? (s : List Char) : Option (Unit × List Char) :=
  let (_, s) := sign s
  (expect? "inf".toList s <|> expect? "nan".toList s).map ((), ·)

/-- Reads a float. -/
def float? (s : List Char) : Option (Unit × List Char) := decimal? s <|> special? s

/-! ### Moments -/

/-- Reads a number of exactly so many digits that lies between two bounds. -/
def field? (width low high : Nat) (s : List Char) : Option (Nat × List Char) :=
  let digits := s.take width
  let n := number 10 digits
  if digits.length = width ∧ digits.all Char.isDigit ∧ low ≤ n ∧ n ≤ high then
    some (n, s.drop width)
  else none

/-- The number of days in a month. -/
def daysIn (year month : Nat) : Nat :=
  if month = 2 then
    if year % 4 = 0 ∧ (year % 100 ≠ 0 ∨ year % 400 = 0) then 29 else 28
  else if month = 4 ∨ month = 6 ∨ month = 9 ∨ month = 11 then 30
  else 31

/-- Takes a date off the front. -/
def date? (s : List Char) : Option (List Char) := do
  let (year, s) ← field? 4 0 9999 s
  let (month, s) ← field? 2 1 12 (← expect? ['-'] s)
  let (_, s) ← field? 2 1 (daysIn year month) (← expect? ['-'] s)
  return s

/-- Takes the digits behind the seconds off the front, if there is a point. -/
def secondFraction? : List Char → Option (List Char)
  | '.' :: rest =>
    if rest.head?.any Char.isDigit then some (rest.dropWhile Char.isDigit) else none
  | s => some s

/-- Takes a time of the day off the front. -/
def time? (s : List Char) : Option (List Char) := do
  let (_, s) ← field? 2 0 23 s
  let (_, s) ← field? 2 0 59 (← expect? [':'] s)
  let (_, s) ← field? 2 0 60 (← expect? [':'] s)
  secondFraction? s

/-- Takes an offset off the front, if there is one. -/
def offset? : List Char → Option (List Char)
  | c :: rest =>
    if c = 'Z' ∨ c = 'z' then some rest
    else if c = '+' ∨ c = '-' then do
      let (_, s) ← field? 2 0 23 rest
      let (_, s) ← field? 2 0 59 (← expect? [':'] s)
      return s
    else some (c :: rest)
  | [] => some []

/-- Takes a moment off the front. What follows a date stays if it does not begin with an hour and a
colon. -/
def moment? (s : List Char) : Option (List Char) :=
  match date? s with
  | none => time? s
  | some [] => some []
  | some (c :: rest) =>
    if (c = 'T' ∨ c = 't' ∨ c = ' ') ∧
        ((field? 2 0 23 rest).bind fun (_, s) => expect? [':'] s).isSome then do
      offset? (← time? rest)
    else some (c :: rest)

end EntityResolution.Toml
