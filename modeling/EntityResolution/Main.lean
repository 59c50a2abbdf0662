import EntityResolution.CommandLine.Run

/-!
# The program

Looks at the files that a command line is about, runs it on what it has seen, and carries the
changes out.
-/

namespace EntityResolution.Main

/-- The text of a location. -/
def pathText (l : Location) : String := "/" ++ "/".intercalate l

/-- Looks at what stands at a location. -/
def look (l : Location) : IO (Option Node) := do
  try
    let content ← IO.FS.readBinFile (pathText l)
    return some (.file content.toList)
  catch
    | .inappropriateType _ code _ => return if code = 21 then some .directory else none
    | _ => return none

/-- Looks at a location and takes down what stands there. -/
def note (files : FileTree) (l : Location) : IO FileTree := do
  match ← look l with
  | some node => return files.set l node
  | none => return files

/-- Looks at all places on the way of a route. -/
def survey (files : FileTree) (r : Route) : IO FileTree :=
  (Route.trail (files.start r) r.steps).foldrM (fun l files => note files l) files

/-- Replaces a file by way of a neighbour. -/
def replace (l : Location) (content : Bytes) : IO Unit := do
  let neighbour := pathText l ++ ".tmp"
  IO.FS.writeBinFile neighbour ⟨content.toArray⟩
  IO.FS.rename neighbour (pathText l)

/-- Carries out what is different. -/
def carryOut (before after : FileTree) : IO Unit := do
  for (l, _) in before.nodes.toList do
    if (after.node? l).isNone then IO.FS.removeFile (pathText l)
  for (l, node) in after.nodes.toList do
    if before.node? l != some node then
      match node with
      | .directory => IO.FS.createDir (pathText l)
      | .file content => replace l content

/-- The variables that matter. -/
def environment : IO Environment := do
  return {
    home := ← IO.getEnv "HOME"
    dataHome := ← IO.getEnv "XDG_DATA_HOME"
    configHome := ← IO.getEnv "XDG_CONFIG_HOME"
    cacheFile := ← IO.getEnv "PROV_IDCACHE_FILE"
    logFilter := ← IO.getEnv "RUST_LOG" }

/-- Tells how a run ended. -/
def tell (outcome : CommandLine.Outcome) : IO Unit :=
  match outcome with
  | .done => return
  | .failed failure => IO.eprintln failure.text
  | .misused => IO.eprintln "For more information, try '--help'."
  | .aborted => IO.eprintln "The log filter is torn."

/-- Runs a command line. -/
def runProgram (arguments : List String) : IO UInt32 := do
  let here := (Path.mk (toString (← IO.currentDir))).route.names.reverse
  let blank : CommandLine.Surroundings := ⟨← environment, ← note { here } here⟩
  let files ← (blank.settingsRoutes arguments).foldlM survey blank.files
  let files ← ({ blank with files }.recordRoutes arguments).foldlM survey files
  let run := { blank with files }.run arguments
  carryOut files run.files
  for line in run.lines do IO.println line
  tell run.outcome
  return run.outcome.code

end EntityResolution.Main

/-- The program. -/
def main (arguments : List String) : IO UInt32 := EntityResolution.Main.runProgram arguments
