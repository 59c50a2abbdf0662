import EntityResolution.CommandLine.Request

/-!
# Arguments

`Request.ofArguments` reads a command line: options of the program, a command, and the options and
words of the command. An option is checked when the next one begins, and the last one before the
command only after the command has been read; until then a page may still be asked for.
-/

namespace EntityResolution.CommandLine

/-- An option that takes a value. -/
inductive Setting where
  | settingsFile
  | cacheFile
  | limit
deriving DecidableEq

namespace Setting

/-- The name behind two dashes. -/
def long : Setting → String
  | settingsFile => "config"
  | cacheFile => "cache-file"
  | limit => "limit"

/-- The letter behind one dash. -/
def short? : Setting → Option Char
  | settingsFile => some 'c'
  | cacheFile => none
  | limit => some 'l'

end Setting

/-- An option that asks for a page. -/
inductive Flag where
  | help
  | version
deriving DecidableEq

namespace Flag

/-- The name behind two dashes. -/
def long : Flag → String
  | help => "help"
  | version => "version"

/-- The letter behind one dash. -/
def short : Flag → Char
  | help => 'h'
  | version => 'V'

end Flag

/-- Reads a number of 64 bits; a plus may stand before it. -/
def countOfText? (s : String) : Option Nat :=
  let digits :=
    match s.toList with
    | '+' :: rest => rest
    | cs => cs
  if digits.isEmpty ∨ !digits.all Char.isDigit then none
  else
    let n := digits.foldl (fun n c => 10 * n + (c.toNat - '0'.toNat)) 0
    if n ≤ 0xFFFFFFFFFFFFFFFF then some n else none

/-- The value can be given to the option: a path that is not empty, or a number. -/
def Setting.accepts : Setting → String → Bool
  | limit, value => (countOfText? value).isSome
  | _, value => value ≠ ""

/-- What the program or one of its commands takes. -/
structure Scope where
  topic : Topic
  settings : List Setting
  flags : List Flag
  /-- A word of the command line can stand at this place. -/
  takes : List String → Bool
  /-- The word has the form that is asked for. -/
  accepts : String → Bool := fun _ => true
  /-- Some word has to be there. -/
  needsWord : Bool := false

/-- The scope of the program itself. -/
def Scope.program : Scope where
  topic := .program
  settings := [.settingsFile, .cacheFile]
  flags := [.help, .version]
  takes _ := false

/-- The text is an identifier. -/
def isIdentifier (s : String) : Bool := (Identifier.ofText? s.toList).isSome

/-- The scope of a command. -/
def Scope.command : CommandName → Scope
  | .stats => ⟨.command .stats, [], [.help], fun _ => false, fun _ => true, false⟩
  | .lookup => ⟨.command .lookup, [], [.help], List.isEmpty, fun _ => true, true⟩
  | .resolve => ⟨.command .resolve, [.limit], [.help], fun _ => true, isIdentifier, true⟩
  | .compact => ⟨.command .compact, [], [.help], fun _ => false, fun _ => true, false⟩

/-- What an argument looks like. -/
inductive Argument where
  | flag (flag : Flag) (long : Bool)
  | setting (setting : Setting) (value? : Option String)
  | word
  | dashes
  | unknown
deriving DecidableEq

/-- A name with the value behind an equals sign. -/
def cutAtEquals (s : List Char) : List Char × Option String :=
  match s.span (· ≠ '=') with
  | (name, _ :: value) => (name, some (String.ofList value))
  | (name, []) => (name, none)

/-- Looks at the name of an option behind two dashes. -/
def Scope.longArgument (scope : Scope) (s : List Char) : Argument :=
  let (name, value) := cutAtEquals s
  match scope.settings.find? (·.long.toList = name), scope.flags.find? (·.long.toList = name) with
  | some setting, _ => .setting setting value
  | none, some flag => if value.isNone then .flag flag true else .unknown
  | none, none => .unknown

/-- Looks at the letter of an option behind one dash, and at the value that may hang on to it. -/
def Scope.shortArgument (scope : Scope) (letter : Char) (rest : List Char) : Argument :=
  match scope.settings.find? (·.short? = some letter), scope.flags.find? (·.short = letter) with
  | some setting, _ =>
    match rest with
    | [] => .setting setting none
    | '=' :: value => .setting setting (some (String.ofList value))
    | value => .setting setting (some (String.ofList value))
  | none, some flag => .flag flag false
  | none, none => .unknown

/-- Looks at an argument. A single dash is a word. -/
def Scope.argument (scope : Scope) (s : String) : Argument :=
  match s.toList with
  | ['-', '-'] => .dashes
  | '-' :: '-' :: name => scope.longArgument name
  | '-' :: letter :: rest => scope.shortArgument letter rest
  | _ => .word

/-- What has been read. -/
structure Reading where
  given : List (Setting × String) := []
  words : List String := []
  /-- The option read last, with its value if that has come. -/
  pending : Option (Setting × Option String) := none
  /-- After two dashes all are words. -/
  wordsOnly : Bool := false
deriving DecidableEq

namespace Reading

/-- The value given to an option. -/
def value? (r : Reading) (s : Setting) : Option String :=
  (r.given.find? fun (t, _) => t = s).map (·.2)

/-- Checks the option read last: it needs a value that it accepts, and comes only once. The words
so far are checked with it. -/
def settle (r : Reading) (scope : Scope) : Except Stop Reading :=
  if !r.words.all scope.accepts then .error .misuse
  else
    match r.pending with
    | none => .ok r
    | some (_, none) => .error .misuse
    | some (s, some value) =>
      if s.accepts value ∧ r.value? s = none then
        .ok { r with given := r.given ++ [(s, value)], pending := none }
      else .error .misuse

end Reading

/-- The page that a flag asks for. -/
def Scope.page (scope : Scope) : Flag → Bool → Page
  | .version, _ => .version
  | .help, true => .manual scope.topic
  | .help, false => .summary scope.topic

/-- Reads one argument; a word that is no value of an option is handed on. -/
def Scope.read (scope : Scope) (r : Reading) (s : String) : Except Stop (Reading × Option String) :=
  if r.wordsOnly then .ok (r, some s)
  else
    match scope.argument s, r.pending with
    | .word, some (setting, none) => .ok ({ r with pending := some (setting, some s) }, none)
    | .word, _ => .ok (r, some s)
    | .dashes, _ => .ok ({ r with wordsOnly := true }, none)
    | .flag flag long, _ => do
      let _ ← r.settle scope
      throw (.page (scope.page flag long))
    | .setting setting none, _ => do
      return ({ ← r.settle scope with pending := some (setting, none) }, none)
    | .setting setting (some value), _ => do
      return (← { ← r.settle scope with pending := some (setting, some value) }.settle scope, none)
    | .unknown, _ => .error .misuse

/-- Reads the options and words of a command. -/
def Scope.readAll (scope : Scope) (r : Reading) : List String → Except Stop Reading
  | [] => do
    let r ← r.settle scope
    if scope.needsWord ∧ r.words = [] then throw .misuse
    return r
  | s :: rest => do
    match ← scope.read r s with
    | (r, none) => scope.readAll r rest
    | (r, some word) =>
      if scope.takes r.words then scope.readAll { r with words := r.words ++ [word] } rest
      else throw .misuse

/-- The command that a reading says. -/
def CommandName.request (name : CommandName) (r : Reading) : Command :=
  match name with
  | .stats => .stats
  | .lookup => .lookup (r.words.headD "")
  | .resolve =>
    .resolve ((r.value? .limit).bind countOfText?)
      (r.words.filterMap fun word => Identifier.ofText? word.toList)
  | .compact => .compact

/-- The page that the command for pages shows. -/
def pageOf : List String → Stop
  | [] => .page (.manual .program)
  | [word] =>
    if word = "help" then .page (.manual .help)
    else
      match CommandName.ofText? word with
      | some name => .page (.manual (.command name))
      | none => .misuse
  | _ => .misuse

/-- Reads the options of the program and the command. What the environment says of the file of
records counts when no option does. -/
def readRequest (cacheVariable : Option String) (r : Reading) :
    List String → Except Stop Request
  | [] => .error .misuse
  | s :: rest => do
    match ← Scope.program.read r s with
    | (r, none) => readRequest cacheVariable r rest
    | (r, some word) =>
      if r.wordsOnly then throw .misuse
      if word = "help" then throw (pageOf rest)
      match CommandName.ofText? word with
      | none => throw .misuse
      | some name =>
        let inner ← (Scope.command name).readAll {} rest
        let r ← r.settle .program
        let cacheFile := (r.value? .cacheFile).or cacheVariable
        if cacheFile = some "" then throw .misuse
        return ⟨(r.value? .settingsFile).map Path.mk, cacheFile.map Path.mk, name.request inner⟩

/-- Reads a command line. -/
def Request.ofArguments (cacheVariable : Option String) (arguments : List String) :
    Except Stop Request :=
  readRequest cacheVariable {} arguments

end EntityResolution.CommandLine
