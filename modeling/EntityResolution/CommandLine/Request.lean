import EntityResolution.FileTree.Path
import EntityResolution.Identifier.Basic

/-!
# Requests

What a command line asks for: a command with its options, or a page of text that the program shows
about itself.
-/

namespace EntityResolution.CommandLine

/-- The names of the commands. -/
inductive CommandName where
  | stats
  | lookup
  | resolve
  | compact
deriving DecidableEq

namespace CommandName

/-- Every command, in the order of the overview. -/
def all : List CommandName := [stats, lookup, resolve, compact]

/-- The name as it is typed. -/
def text : CommandName → String
  | stats => "stats"
  | lookup => "lookup"
  | resolve => "resolve"
  | compact => "compact"

/-- The command of that name. -/
def ofText? (s : String) : Option CommandName := all.find? fun name => name.text = s

end CommandName

/-- A command with what it works on. -/
inductive Command where
  | stats
  | lookup (id : String)
  | resolve (limit : Option Nat) (ids : List Identifier)
  | compact
deriving DecidableEq

/-- What is asked for. -/
structure Request where
  /-- Where the settings are. -/
  settingsFile : Option Path := none
  /-- Where the records are. -/
  cacheFile : Option Path := none
  command : Command
deriving DecidableEq

/-- What a page is about. -/
inductive Topic where
  | program
  | command (name : CommandName)
  /-- The command that shows pages. -/
  | help
deriving DecidableEq

/-- A text that is shown instead of any work. -/
inductive Page where
  | version
  | summary (topic : Topic)
  | manual (topic : Topic)
deriving DecidableEq

/-- Why a command line leads to no request. -/
inductive Stop where
  /-- A page is asked for. -/
  | page (page : Page)
  /-- The arguments are not of the form that the commands have. -/
  | misuse
deriving DecidableEq

/-! ### Pages -/

/-- The name of the program. -/
def programName : String := "prov-idcache"

/-- The version of the program. -/
def version : String := "0.1.0"

namespace CommandName

/-- What the command does. -/
def about : CommandName → String
  | stats => "Print entity and identifier counts"
  | lookup => "Print the identifiers indexed for one entity"
  | resolve => "Rank cached entities against identifiers given as schema:type:value[|context]"
  | compact => "Rewrite the cache, dropping invalid identifiers"

/-- What stands behind the name of the command. -/
def usage : CommandName → String
  | stats => ""
  | lookup => " <SYSTEM_ID>"
  | resolve => " [OPTIONS] <IDENTIFIERS>..."
  | compact => ""

end CommandName

/-- What the command for pages does. -/
def aboutHelp : String := "Print this message or the help of the given subcommand(s)"

/-- The page about the program, given the variable for the file of records. -/
def programPage (cacheVariable : Option String) : List String :=
  ["Inspect and query the provenance identifier cache",
    "",
    "Usage: " ++ programName ++ " [OPTIONS] <COMMAND>",
    "",
    "Commands:"] ++
  CommandName.all.map (fun name =>
    "  " ++ name.text ++ String.ofList (List.replicate (9 - name.text.length) ' ') ++ name.about) ++
  ["  help     " ++ aboutHelp,
    "",
    "Options:",
    "  -c, --config <CONFIG>          " ++
      "Bootstrap TOML config (defaults to the platform config directory)",
    "      --cache-file <CACHE_FILE>  Identifier cache file [env: PROV_IDCACHE_FILE=" ++
      cacheVariable.getD "" ++ "]",
    "  -h, --help                     Print help",
    "  -V, --version                  Print version"]

/-- The page about a command, in few words. -/
def commandSummary (name : CommandName) : List String :=
  [name.about, "", "Usage: " ++ programName ++ " " ++ name.text ++ name.usage, ""] ++
  match name with
  | .lookup =>
    ["Arguments:", "  <SYSTEM_ID>  System id of the entity", "", "Options:",
      "  -h, --help  Print help"]
  | .resolve =>
    ["Arguments:", "  <IDENTIFIERS>...  ", "", "Options:",
      "  -l, --limit <LIMIT>  Maximum number of candidates (defaults to the configured limit)",
      "  -h, --help           Print help (see more with '--help')"]
  | _ => ["Options:", "  -h, --help  Print help"]

/-- The page about a command, in full. -/
def commandManual (name : CommandName) : List String :=
  match name with
  | .resolve =>
    [name.about, "", "A `|` or `\\` inside a value or context is escaped with `\\`.", "",
      "Usage: " ++ programName ++ " " ++ name.text ++ name.usage, "", "Arguments:",
      "  <IDENTIFIERS>...", "          ", "", "Options:", "  -l, --limit <LIMIT>",
      "          Maximum number of candidates (defaults to the configured limit)", "",
      "  -h, --help", "          Print help (see a summary with '-h')"]
  | _ => commandSummary name

/-- The page about the command for pages. -/
def helpPage : List String :=
  [aboutHelp, "", "Usage: " ++ programName ++ " help [COMMAND]...", "", "Arguments:",
    "  [COMMAND]...  Print help for the subcommand(s)"]

/-- The lines of a page. -/
def Page.lines (cacheVariable : Option String) : Page → List String
  | version => [programName ++ " " ++ CommandLine.version]
  | summary .program => programPage cacheVariable
  | manual .program => programPage cacheVariable
  | summary (.command name) => commandSummary name
  | manual (.command name) => commandManual name
  | summary .help => helpPage
  | manual .help => helpPage

end EntityResolution.CommandLine
