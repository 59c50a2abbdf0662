import EntityResolution.CommandLine.Arguments
import EntityResolution.CommandLine.Request
import EntityResolution.Fault
import EntityResolution.Log.Filter
import EntityResolution.Resolver
import EntityResolution.Settings.Basic
import EntityResolution.Text.Basic

/-!
# Runs

`run` does what a command line asks for: it loads the settings, opens the log, reads the records,
and answers the command with lines of text. Only `compact` changes a file. A `Failure` says what
could not be done, with the causes behind it, the nearest first.
-/

namespace EntityResolution.CommandLine

/-! ### Failures -/

/-- What could not be done, and why. -/
structure Failure where
  words : String
  causes : List String := []
deriving DecidableEq

namespace Failure

/-- The causes, one a line; several ones are numbered. -/
def causeLines (f : Failure) : List String :=
  match f.causes with
  | [cause] => ["    " ++ cause]
  | causes => causes.mapIdx fun i cause => "    " ++ toString i ++ ": " ++ cause

/-- The report of the failure. -/
def text (f : Failure) : String :=
  "Error: " ++ f.words ++
    if f.causes.isEmpty then ""
    else "\n\nCaused by:\n" ++ "\n".intercalate f.causeLines

end Failure

/-- The causes that stand in a fault: itself, and the file error in it. -/
def faultCauses (fault : Fault) : List String :=
  match fault with
  | .file cause => [fault.message, cause.message]
  | _ => [fault.message]

/-- The causes that stand in a fault of the settings. -/
def settingsCauses (fault : SettingsFault) : List String :=
  match fault with
  | .file cause => [fault.message, cause.message]
  | _ => [fault.message]

/-! ### Runs -/

/-- Where a program runs. -/
structure Surroundings where
  environment : Environment
  files : FileTree

/-- How a run ends. -/
inductive Outcome where
  | done
  | failed (failure : Failure)
  | misused
  /-- The log did not open, and the run was given up on the spot. -/
  | aborted
deriving DecidableEq

/-- The code that tells the caller how the run ended. -/
def Outcome.code : Outcome → UInt32
  | done => 0
  | failed _ => 1
  | misused => 2
  | aborted => 101

/-- What a run leaves behind. -/
structure Run where
  lines : List String
  outcome : Outcome
  files : FileTree

/-- The relevance of a candidate, with three places. -/
def relevanceText (r : Relevance) : String := FixedPoint.ofDouble 3 r.toFloat.toBits

/-- The word for what stands behind a candidate. -/
def backingText : Backing → String
  | .live _ => "live"
  | .stub _ => "stub"
  | .detached => "detached"

/-- The line of a candidate. -/
def candidateLine (c : Candidate) : String :=
  relevanceText c.relevance ++ "  " ++ c.key.text ++ "  [" ++ backingText c.backing ++ "]"

/-- The lines of the counts. -/
def statsLines (loaded : Nat) (s : Index.Stats) : List String :=
  ["records loaded: " ++ toString loaded,
    "entities:       " ++ toString s.entities,
    "  persons:      " ++ toString s.persons,
    "  resources:    " ++ toString s.resources,
    "  tools:        " ++ toString s.tools,
    "identifiers:    " ++ toString s.identifiers]

/-- A failure in the words of a fault. -/
def failureOf (fault : Fault) : Failure :=
  match faultCauses fault with
  | words :: causes => ⟨words, causes⟩
  | [] => ⟨fault.message, []⟩

/-- The lines about the entity with a system identifier. -/
def lookupLines (r : Resolver) (text : String) : Except Failure (List String) := do
  match Uuid.ofText? (Text.trim text.toList) with
  | none => throw ⟨(InvalidText.uuid text).message, []⟩
  | some id =>
    let index ← r.lock.mapError failureOf
    match index.find? id with
    | none => throw ⟨"No cached entity with id " ++ id.text, []⟩
    | some key =>
      let ids ← (r.identifiersOf key).mapError failureOf
      return key.text :: (ids.getD []).map fun i => "  " ++ i.text

/-- The lines about the entities that identifiers may stand for. -/
def resolveLines (r : Resolver) (limit : Nat) (ids : List Identifier) :
    Except Failure (List String) := do
  let (candidates, _, _) ← (r.resolve {} limit ids).mapError failureOf
  if candidates.isEmpty then return ["no match"] else return candidates.map candidateLine

/-- Answers a command with lines; the files may have changed. -/
def answer (s : Settings) (cacheFile : Path) (loaded : Nat) (r : Resolver) (files : FileTree) :
    Command → Except Failure (List String) × FileTree
  | .stats => ((r.lock.mapError failureOf).map fun i => statsLines loaded (i.stats {}), files)
  | .lookup id => (lookupLines r id, files)
  | .resolve limit ids => (resolveLines r (limit.getD s.candidateLimit) ids, files)
  | .compact =>
    match r.writeCache files with
    | (.ok written, files) =>
      (.ok ["compacted " ++ toString loaded ++ " records into " ++ toString written ++ " entries"],
        files)
    | (.error fault, files) =>
      (.error ⟨"Failed to write cache " ++ cacheFile.text, faultCauses fault⟩, files)

namespace Surroundings

/-- The file of settings that a request means. -/
def settingsPath (s : Surroundings) (request : Request) : Path :=
  request.settingsFile.getD s.environment.defaultSettingsFile

/-- Loads the settings of a request. -/
def loadSettings (s : Surroundings) (request : Request) : Except Failure Settings :=
  let path := s.settingsPath request
  (Settings.load s.files path.route).mapError fun fault =>
    ⟨"Failed to load config " ++ path.text, settingsCauses fault⟩

/-- The file of records that a request means. -/
def cachePath (s : Surroundings) (request : Request) (settings : Settings) : Path :=
  s.environment.cacheFileFor request.cacheFile settings

/-- The store of the records. -/
def store (s : Surroundings) (request : Request) (settings : Settings) : Store :=
  { target := (s.cachePath request settings).route }

/-- Does what is requested, once the settings are known. -/
def perform (s : Surroundings) (request : Request) (settings : Settings) :
    Except Failure (List String) × FileTree :=
  let path := s.cachePath request settings
  let resolver : Resolver :=
    { store := some (s.store request settings)
      factory := some Entity.blank
      instantiateMissing := settings.instantiateMissing }
  match resolver.readCache s.files with
  | (.error fault, _) =>
    (.error ⟨"Failed to read cache " ++ path.text, faultCauses fault⟩, s.files)
  | (.ok loaded, resolver) => answer settings path loaded resolver s.files request.command

/-- Does what a command line asks for. -/
def run (s : Surroundings) (arguments : List String) : Run :=
  match Request.ofArguments s.environment.cacheFile arguments with
  | .error (.page page) => ⟨page.lines s.environment.cacheFile, .done, s.files⟩
  | .error .misuse => ⟨[], .misused, s.files⟩
  | .ok request =>
    match s.loadSettings request with
    | .error failure => ⟨[], .failed failure, s.files⟩
    | .ok settings =>
      if Log.opens s.environment.logFilter settings.level then
        match s.perform request settings with
        | (.ok lines, files) => ⟨lines, .done, files⟩
        | (.error failure, files) => ⟨[], .failed failure, files⟩
      else ⟨[], .aborted, s.files⟩

/-- The routes to what decides on the settings of a command line. -/
def settingsRoutes (s : Surroundings) (arguments : List String) : List Route :=
  match Request.ofArguments s.environment.cacheFile arguments with
  | .ok request => [(s.settingsPath request).route]
  | .error _ => []

/-- The routes to what a command line reads records from or writes them to. -/
def recordRoutes (s : Surroundings) (arguments : List String) : List Route :=
  match Request.ofArguments s.environment.cacheFile arguments with
  | .ok request =>
    match s.loadSettings request with
    | .ok settings => [(s.store request settings).target, (s.store request settings).temporary]
    | .error _ => []
  | .error _ => []

end Surroundings

end EntityResolution.CommandLine
