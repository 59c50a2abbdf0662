import EntityResolution.FileTree.Basic
import EntityResolution.Identifier.Basic
import EntityResolution.Index.Basic

/-!
# Faults

What can go wrong in the use of an index and its store, as causes; `Fault.message` words them.
Whatever can go wrong gives an `Except`; what such a computation tells of its parts if it succeeds
stands at the end.
-/

namespace EntityResolution

/-- A text that is not of the form asked for. -/
inductive InvalidText where
  | identifier (text : String)
  | kind (text : String)
  | uuid (text : String)
deriving DecidableEq

namespace InvalidText

/-- The words for the cause. What is wrong with the text of a uuid is not told. -/
def message : InvalidText → String
  | identifier text => "Invalid input: Expected schema:type:value[|context], got '" ++ text ++ "'"
  | kind text => "Invalid input: Unknown entity kind: " ++ text
  | uuid text => "Invalid input: Invalid UUID '" ++ text ++ "'"

end InvalidText

/-- Reads an identifier from its written form, or says what was expected. -/
def Identifier.read (text : String) : Except InvalidText Identifier :=
  match ofText? text.toList with
  | some i => .ok i
  | none => .error (.identifier text)

/-- Why records cannot be read or written. -/
inductive FormatFault where
  /-- The line of this number, counted from 1, is no record. -/
  | line (number : Nat)
  /-- The writing of a record stops, with these words. -/
  | stopped (words : String)
deriving DecidableEq

namespace FormatFault

/-- The words for the cause. For a line they stop at its number: what the reader of JSON objects to
in it is not kept, so the detail that would follow behind a colon is not told. -/
def message : FormatFault → String
  | line number => "line " ++ toString number
  | stopped words => words

end FormatFault

namespace Corruption

/-- The words for the cause. -/
def message : Corruption → String
  | noBucket key identifier =>
    "identifier index corrupt: " ++ key.text ++ " tracks " ++ identifier.text ++
      " but no reverse bucket exists"
  | notListed key identifier =>
    "identifier index corrupt: reverse bucket for " ++ identifier.text ++ " does not list " ++
      key.text
  | noEntry key => "identifier index corrupt: ranked " ++ key.text ++ " has no forward entry"

end Corruption

/-- Why a request to a resolver fails. -/
inductive Fault where
  | emptyQuery
  | zeroLimit
  | unknownEntity (key : Key)
  | format (cause : FormatFault)
  | file (cause : FileError)
  /-- Someone gave up in the middle of a change, so the index is no longer trusted. -/
  | poisoned
  | corrupt (cause : Corruption)
deriving DecidableEq

namespace Fault

/-- The words for the cause. -/
def message : Fault → String
  | emptyQuery => "Cannot resolve an empty identifier set"
  | zeroLimit => "Candidate limit must be at least 1"
  | unknownEntity key => "Entity " ++ key.text ++ " is not registered"
  | format cause => "Cache format error: " ++ cause.message
  | file cause => "IO error: " ++ cause.message
  | poisoned => "Resolver lock poisoned"
  | corrupt cause => cause.message

end Fault

/-! ### Computations that may fail -/

namespace Except

variable {ε ε' α β : Type}

/-- A computation that succeeds does so after its first part does. -/
theorem exists_of_bind_eq_ok {x : Except ε α} {f : α → Except ε β} {b : β}
    (h : x >>= f = .ok b) : ∃ a, x = .ok a ∧ f a = .ok b := by
  cases x with
  | error e => cases h
  | ok a => exact ⟨a, rfl, h⟩

/-- Errors told in other words are errors still. -/
theorem mapError_eq_ok {x : Except ε α} {f : ε → ε'} {a : α} :
    x.mapError f = .ok a ↔ x = .ok a := by
  cases x with
  | error e => exact iff_of_false (fun h => by cases h) (fun h => by cases h)
  | ok a' =>
      exact ⟨fun h => congrArg Except.ok (Except.ok.inj h),
        fun h => congrArg Except.ok (Except.ok.inj h)⟩

end Except

end EntityResolution
