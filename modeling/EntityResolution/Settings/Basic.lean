import EntityResolution.FileTree.Basic
import EntityResolution.Text.Basic
import EntityResolution.Toml.Document

/-!
# Settings

Every setting has a default, so that a file of settings may say little or be missing.

The `Environment` tells where the file of settings and the file of records are when nobody says so.
Who says where the records are is asked in order: the command line, the environment, the settings.

Settings are kept as TOML: `cache_file` first, then the tables `resolver` and `logging`.
`Settings.load` takes a missing file for the defaults, `Settings.save` replaces a file by way of a
neighbour.
-/

namespace EntityResolution

/-- What can be set. -/
structure Settings where
  /-- Where the records are kept. -/
  cacheFile : Option Path := none
  /-- How many candidates an answer has at most. -/
  candidateLimit : Nat := 10
  /-- Candidates without an object get one built. -/
  instantiateMissing : Bool := false
  /-- How much is logged. -/
  level : String := "info"
deriving DecidableEq

/-- Why settings cannot be read or written. -/
inductive SettingsFault where
  | unreadable (cause : FileError)
  | malformed
  | zeroLimit
  /-- A number is too large for the format. -/
  | unwritable
  | file (cause : FileError)
deriving DecidableEq

namespace SettingsFault

/-- The words for the cause. What the reader or the writer of TOML objects to is not kept, so the
detail that would follow behind a colon is not told. -/
def message : SettingsFault → String
  | unreadable cause => "Configuration error: Read TOML failed: " ++ cause.message
  | malformed => "Configuration error: Parse TOML failed"
  | zeroLimit => "Configuration error: resolver.candidate_limit must be at least 1"
  | unwritable => "Configuration error: Serialize TOML failed"
  | file cause => "IO error: " ++ cause.message

end SettingsFault

/-! ### Places -/

/-- The variables of the environment that matter. -/
structure Environment where
  /-- `HOME`. -/
  home : Option String := none
  /-- `XDG_DATA_HOME`. -/
  dataHome : Option String := none
  /-- `XDG_CONFIG_HOME`. -/
  configHome : Option String := none
  /-- `PROV_IDCACHE_FILE`. -/
  cacheFile : Option String := none
  /-- `RUST_LOG`: the filter of the log. -/
  logFilter : Option String := none
deriving DecidableEq

namespace Environment

/-- The place below `HOME` of that path, if there is a home. -/
def belowHome? (e : Environment) (path : String) : Option Path :=
  (e.home.filter (· ≠ "")).map fun home => Path.join ⟨home⟩ path

/-- A base directory: what a variable says if that is an absolute path, else a place below
`HOME`. -/
def baseDirectory? (e : Environment) (said : Option String) (path : String) : Option Path :=
  ((said.map Path.mk).filter (·.isAbsolute)).or (e.belowHome? path)

/-- The file of settings, when nobody says where it is. -/
def defaultSettingsFile (e : Environment) : Path :=
  match e.baseDirectory? e.configHome ".config" with
  | some base => (base.join "prov").join "prov-idcache.toml"
  | none => ⟨"prov-idcache.toml"⟩

/-- The file of records, when nobody says where it is. -/
def defaultCacheFile (e : Environment) : Path :=
  match e.baseDirectory? e.dataHome ".local/share" with
  | some base => (base.join "prov").join "identifiers.jsonl"
  | none => ⟨"./prov_data/identifiers.jsonl"⟩

/-- The file of records: what the command line says unless it is empty, else what the environment
says unless it is blank, else what the settings say, else the default. -/
def cacheFileFor (e : Environment) (argument? : Option Path) (s : Settings) : Path :=
  match argument?.filter (·.text ≠ ""), e.cacheFile.filter fun t => ¬Text.AllBlank t.toList with
  | some path, _ => path
  | none, some text => ⟨text⟩
  | none, none => s.cacheFile.getD e.defaultCacheFile

end Environment

end EntityResolution

namespace EntityResolution.Settings

/-! ### The file of settings -/

open Toml (Table textForm)

/-- The neighbour that is written first: its extension is `toml.tmp`. -/
def temporary (r : Route) : Route := r.withExtension "toml.tmp"

/-- Reads a text, or takes the default if there is none. -/
def textOf? (default : String) : Option Toml → Option String
  | none => some default
  | some (.string text) => some text
  | some _ => none

/-- Reads a truth value, or takes the default if there is none. -/
def flagOf? (default : Bool) : Option Toml → Option Bool
  | none => some default
  | some (.boolean value) => some value
  | some _ => none

/-- Reads a number that is not negative, or takes the default if there is none. -/
def countOf? (default : Nat) : Option Toml → Option Nat
  | none => some default
  | some (.integer value) => if 0 ≤ value then some value.toNat else none
  | some _ => none

/-- Reads a path that may be missing. -/
def pathOf? : Option Toml → Option (Option Path)
  | none => some none
  | some (.string text) => some (some ⟨text⟩)
  | some _ => none

/-- Reads the settings of the table `resolver`. -/
def resolverOf? (s : Settings) : Option Toml → Option Settings
  | none => some s
  | some t => do
    match ← t.fields? ["candidate_limit", "instantiate_missing"] with
    | [limit, instantiate] =>
      return { s with
        candidateLimit := ← countOf? s.candidateLimit limit
        instantiateMissing := ← flagOf? s.instantiateMissing instantiate }
    | _ => none

/-- Reads the settings of the table `logging`. -/
def loggingOf? (s : Settings) : Option Toml → Option Settings
  | none => some s
  | some t => do
    match ← t.fields? ["level"] with
    | [level] => return { s with level := ← textOf? s.level level }
    | _ => none

/-- The settings that a file says, with the defaults for the others. -/
def ofTable? (t : Table) : Option Settings := do
  let cacheFile ← pathOf? (t.get? "cache_file")
  let s ← resolverOf? { cacheFile } (t.get? "resolver")
  loggingOf? s (t.get? "logging")

/-- Reads the content of a file of settings. -/
def ofText? (s : List Char) : Except SettingsFault Settings :=
  match (Toml.parse? s).bind ofTable? with
  | none => .error .malformed
  | some settings => if settings.candidateLimit = 0 then .error .zeroLimit else .ok settings

/-- Loads the settings. -/
def load (files : FileTree) (r : Route) : Except SettingsFault Settings :=
  if files.isPresent r then
    match files.read r with
    | .error cause => .error (.unreadable cause)
    | .ok content =>
      match Utf8.decode? content with
      | none => .error (.unreadable .notUtf8)
      | some text => ofText? text
  else .ok {}

/-- A line with a key and a value. -/
def line (key : String) (value : List Char) : List Char :=
  key.toList ++ " = ".toList ++ value ++ ['\n']

/-- The text of a truth value. -/
def flagForm (value : Bool) : List Char := if value then "true".toList else "false".toList

/-- The greatest number that the format has. -/
def maxNumber : Nat := 0x7FFFFFFFFFFFFFFF

/-- The content of a file of settings. -/
def form (s : Settings) : List Char :=
  (match s.cacheFile with
    | none => []
    | some path => line "cache_file" (textForm path.text.toList) ++ ['\n']) ++
  "[resolver]\n".toList ++ line "candidate_limit" (toString s.candidateLimit).toList ++
  line "instantiate_missing" (flagForm s.instantiateMissing) ++
  "\n[logging]\n".toList ++ line "level" (textForm s.level.toList)

/-- Replaces a file of settings. A neighbour that cannot take its place stays. -/
def save (s : Settings) (files : FileTree) (r : Route) : Except SettingsFault Unit × FileTree :=
  if maxNumber < s.candidateLimit then (.error .unwritable, files)
  else
    match files.createDirectories r.parent with
    | (.error cause, files) => (.error (.file cause), files)
    | (.ok (), files) =>
      match files.write (temporary r) (Utf8.encode s.form) with
      | .error cause => (.error (.file cause), files)
      | .ok files =>
        match files.rename (temporary r) r with
        | .error cause => (.error (.file cause), files)
        | .ok files => (.ok (), files)

end EntityResolution.Settings
