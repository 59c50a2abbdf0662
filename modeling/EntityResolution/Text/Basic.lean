/-!
# Texts

What is done to texts, as lists of characters, and how numbers are written in them.

* `Text.isBlank` is Unicode's property `White_Space`, and `Text.trim` takes blanks off both ends.
* `Text.cut` takes a text apart at each mark. `Text.piece?` takes out the part between two counts
  of bytes, which must not go through a character.
* `Text.hexDigits` writes a number in hexadecimal digits, and `Text.hexNumber?` reads one.
* `FixedPoint.ofDouble` writes a finite double that is not negative with a given count of decimal
  places. The exact value of the double is rounded, and a tie goes to the even neighbour.
-/

namespace EntityResolution.Text

/-! ### Blanks -/

/-- The 25 characters of Unicode's property `White_Space`. -/
def isBlank (c : Char) : Bool :=
  let n := c.toNat
  (0x09 ≤ n && n ≤ 0x0D) || n == 0x20 || n == 0x85 || n == 0xA0 || n == 0x1680 ||
    (0x2000 ≤ n && n ≤ 0x200A) || n == 0x2028 || n == 0x2029 || n == 0x202F || n == 0x205F ||
    n == 0x3000

/-- The text without the blanks in front. -/
def trimStart (s : List Char) : List Char := s.dropWhile isBlank

/-- The text without the blanks at its end. -/
def trimEnd (s : List Char) : List Char := (trimStart s.reverse).reverse

/-- The text without the blanks on both ends. -/
def trim (s : List Char) : List Char := trimEnd (trimStart s)

/-- A text of blanks only. -/
def AllBlank (s : List Char) : Prop := ∀ c ∈ s, isBlank c = true

instance (s : List Char) : Decidable (AllBlank s) :=
  List.decidableBAll (fun c => isBlank c = true) s

/-! ### Cuts -/

/-- The texts between the marks; a text without marks stays whole. -/
def cut (mark : Char) : List Char → List (List Char)
  | [] => [[]]
  | c :: rest =>
    if c = mark then [] :: cut mark rest
    else
      match cut mark rest with
      | part :: parts => (c :: part) :: parts
      | [] => [[c]]

/-- The text behind the first so many bytes. -/
def dropBytes? : Nat → List Char → Option (List Char)
  | 0, s => some s
  | _ + 1, [] => none
  | n + 1, c :: rest => if c.utf8Size ≤ n + 1 then dropBytes? (n + 1 - c.utf8Size) rest else none

/-- The text of the first so many bytes. -/
def takeBytes? : Nat → List Char → Option (List Char)
  | 0, _ => some []
  | _ + 1, [] => none
  | n + 1, c :: rest =>
    if c.utf8Size ≤ n + 1 then (takeBytes? (n + 1 - c.utf8Size) rest).map (c :: ·) else none

/-- The text between two counts of bytes. -/
def piece? (first last : Nat) (s : List Char) : Option (List Char) :=
  (dropBytes? first s).bind (takeBytes? (last - first))

/-! ### Hexadecimal digits -/

/-- The value of a hexadecimal digit, in either case. -/
def hexValue? (c : Char) : Option Nat :=
  if '0' ≤ c ∧ c ≤ '9' then some (c.toNat - '0'.toNat)
  else if 'a' ≤ c ∧ c ≤ 'f' then some (c.toNat - 'a'.toNat + 10)
  else if 'A' ≤ c ∧ c ≤ 'F' then some (c.toNat - 'A'.toNat + 10)
  else none

/-- The lower-case digit for the last four bits of a number. -/
def hexDigit (n : Nat) : Char :=
  let d := n % 16
  if d < 10 then Char.ofNat ('0'.toNat + d) else Char.ofNat ('a'.toNat + (d - 10))

/-- The last `width` hexadecimal digits of a number, lower case. -/
def hexDigits : Nat → Nat → List Char
  | 0, _ => []
  | width + 1, n => hexDigits width (n / 16) ++ [hexDigit n]

/-- The number that a run of hexadecimal digits writes, after the digits of `value`. -/
def hexNumberFrom? (value : Nat) : List Char → Option Nat
  | [] => some value
  | c :: rest => do hexNumberFrom? (16 * value + (← hexValue? c)) rest

/-- The number that a run of hexadecimal digits writes; the empty run writes 0. -/
def hexNumber? (digits : List Char) : Option Nat := hexNumberFrom? 0 digits

end EntityResolution.Text

namespace EntityResolution.FixedPoint

/-! ### Numbers with a fixed count of places -/

/-- The quotient rounded to a whole number, a tie going to the even neighbour. -/
def roundDiv (numerator denominator : Nat) : Nat :=
  let q := numerator / denominator
  let r := numerator % denominator
  if denominator < 2 * r ∨ (denominator = 2 * r ∧ q % 2 = 1) then q + 1 else q

/-- The exact value of a double without sign, as numerator and denominator. -/
def ofBits (bits : UInt64) : Nat × Nat :=
  let exponent := bits.toNat / Nat.pow 2 52 % Nat.pow 2 11
  let fraction := bits.toNat % Nat.pow 2 52
  if exponent = 0 then (fraction, Nat.pow 2 1074)
  else ((Nat.pow 2 52 + fraction) * Nat.pow 2 (exponent - 1075), Nat.pow 2 (1075 - exponent))

/-- Digits with leading zeros up to the given width. -/
def padded (width : Nat) (n : Nat) : String :=
  let digits := toString n
  String.ofList (List.replicate (width - digits.length) '0') ++ digits

/-- The value with the given count of places, which is at least one. -/
def ofDouble (places : Nat) (bits : UInt64) : String :=
  let (numerator, denominator) := ofBits bits
  let scaled := roundDiv (numerator * Nat.pow 10 places) denominator
  toString (scaled / Nat.pow 10 places) ++ "." ++ padded places (scaled % Nat.pow 10 places)

end EntityResolution.FixedPoint
