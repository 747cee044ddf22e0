import CodingStandard.Analysis
import CodingStandard.CommandLine.Arguments
import CodingStandard.Preset

namespace CodingStandard

/-!
# The program

`CommandLine.run` is the whole program as a function: from the arguments, the environment and the
files to what is printed, the exit status and the files afterwards.
-/

namespace CommandLine

/-- What the program finds when it starts. -/
structure World where
  tree : FileTree
  directory : Path
  environment : List (String × String)

namespace World

def absolute (world : World) (path : Path) : Path := world.directory.join path

def isFile (world : World) (path : Path) : Bool := world.tree.isFile (world.absolute path)

def exists? (world : World) (path : Path) : Bool :=
  (world.tree.get? (world.absolute path)).isSome && !path.text.isEmpty

/-- The absolute path without dots of what is at a path, or the path itself if there is nothing. -/
def canonical (world : World) (path : Path) : Path :=
  if world.exists? path then .ofNames (world.absolute path).resolved else path

end World

/-- What the program leaves behind. -/
structure Outcome where
  exit : Nat
  output : String
  error : Option String
  tree : FileTree

namespace Outcome

/-- A run that prints something and changes nothing. -/
def printing (world : World) (exit : Nat) (output : String) : Outcome :=
  ⟨exit, output, none, world.tree⟩

def failing (world : World) (message : String) : Outcome := ⟨1, "", some message, world.tree⟩

end Outcome

/-! ## Configuration files -/

def configName : String := "twistlint.toml"

def projectConfigNames : List String := [configName, "." ++ configName]

/-- The configuration file in the first of several directories that has one. -/
def findProjectConfig? (world : World) (dirs : List Path) : Option Path :=
  (dirs.flatMap fun dir => projectConfigNames.map fun name => dir.join (.ofString name)).find?
    world.isFile

def userDirectory? (world : World) : Option Path :=
  match world.environment.lookup "TWISTLINT_CONFIG_DIR" with
  | some dir => some (.ofString dir)
  | none =>
    (world.environment.lookup "HOME").map fun home =>
      (Path.ofString home).join (.ofString ".twistlint")

def userConfig? (world : World) : Option Path :=
  ((userDirectory? world).map (·.join (.ofString "config.toml"))).filter world.isFile

/-- The directory from which on a configuration file is searched for. -/
def projectDirectory (world : World) (path : Path) : Path :=
  if world.isFile path then path.parent?.getD (.ofString ".") else path

/-- The configuration file for a path: the one that is given, the nearest one around the path, or
the user's own. -/
def configPath? (world : World) (given : Option Path) (path : Path) : Option Path :=
  given.or
    ((findProjectConfig? world (world.canonical (projectDirectory world path)).ancestors).or
      (userConfig? world))

def loadConfig (world : World) : Option Path → Except String Config
  | none => .ok .default
  | some path =>
    match (world.tree.readText? (world.absolute path)).map Config.parse with
    | some (.ok config) => .ok config
    | _ => .error ("Failed to load config: " ++ path.toString)

/-! ## Checking -/

/-- A result, with another wording of its error. -/
def orElse {ε α : Type} (message : String) : Except ε α → Except String α
  | .ok a => .ok a
  | .error _ => .error message

/-- The configuration with the preset of the command line and the messages of the preset. -/
def withPreset (config : Config) (preset : Option String) : Except String Config := do
  let config := { config with preset := preset.or config.preset }
  let chosen ← orElse "Invalid preset" config.chosenPreset
  let messages := { config.messages with enable := chosen.messages ++ config.messages.enable }
  return { config with messages := messages }

/-- The names in a list with commas. -/
def ruleNames (list : String) : List String :=
  (Text.splitOn ',' list.toList).map fun name => String.ofList (Text.trim name)

def checkersOf (config : Config) (rules : Option String) : Except String (List Checker) :=
  orElse "Invalid checker configuration" <|
    match rules with
    | some list => config.checkersNamed (ruleNames list)
    | none => config.checkers

/-- The report of a check, and whether it makes the run fail. -/
def check (world : World) (given : Option Path) (options : CheckOptions) :
    Except String (Report × Bool) := do
  let loaded ← loadConfig world (configPath? world given options.path)
  let config ← withPreset loaded options.preset
  let threshold ← orElse "Invalid fail_on" config.failThreshold
  let checkers ← checkersOf config options.rules
  let analyzer ← orElse "Failed to build analyzer" <|
    Analyzer.build world.tree config checkers (world.absolute options.path) options.exclude []
  let report ← orElse "Analysis failed" (analyzer.run world.tree)
  return (report, report.reaches threshold)

/-! ## Listing messages -/

def pad (width : Nat) (text : String) : String :=
  text ++ String.ofList (List.replicate (width - text.length) ' ')

def messageRow (code symbol checker summary : String) : String :=
  pad 7 code ++ " " ++ pad 38 symbol ++ " " ++ pad 14 checker ++ " " ++ summary

def entryRow (entry : CatalogEntry) : String :=
  messageRow entry.message.code entry.message.symbol entry.checker
    (entry.message.summary ++ if entry.message.defaultEnabled then "" else " (off)")

def commas (names : List String) : String :=
  String.ofList (Text.join ", ".toList (names.map String.toList))

def presetRow (preset : Preset) : String :=
  "  " ++ pad 10 preset.name ++ " " ++ commas preset.checkers ++
    if preset.messages.isEmpty then "" else " + " ++ commas preset.messages

def messageList (catalog : Catalog) : List String :=
  ["Available messages:", "", messageRow "Code" "Symbol" "Checker" "Summary",
    String.ofList (List.replicate 100 '-')] ++
  catalog.entries.map entryRow ++
  ["", "Presets:"] ++
  Preset.all.map presetRow ++
  ["", "Messages marked (off) need \x60[messages] enable\x60 or the pep8 preset.",
    "Use --rules to run specific checkers, e.g.:",
    "  twistlint check --rules docstring,names"]

def fullCatalog : Except String Catalog := do
  let checkers ← orElse "Invalid message catalog" (Config.default.checkersNamed Preset.allCheckers)
  orElse "Invalid message catalog" (Linter.catalogOf checkers)

/-! ## Writing a configuration file -/

/-- The configuration file that the program writes. -/
def template : List String := [
  "# twistlint configuration",
  "",
  "# Checker preset: \"standard\", \"pep8\" (adds whitespace and end-of-file",
  "# messages) or \"minimal\"",
  "preset = \"standard\"",
  "",
  "# Exit with status 1 when a violation of this severity or above is found",
  "fail_on = \"warning\"",
  "",
  "[analyzer]",
  "# Glob patterns to exclude from analysis",
  "exclude = [",
  "    \"**/build/**\",",
  "    \"**/.tox/**\",",
  "]",
  "",
  "# Respect .gitignore files",
  "respect_gitignore = true",
  "",
  "# Extra import roots searched when resolving interfaces",
  "# python_path = [\"../vendor\"]",
  "",
  "[messages]",
  "# Codes or symbols; \"all\" matches every message",
  "enable = []",
  "disable = []",
  "",
  "# Checker configurations, keyed by checker name.",
  "# Each checker can be disabled or have its severity overridden.",
  "",
  "[rules.docstring]",
  "enabled = true",
  "# severity = \"warning\"",
  "strict_epydoc = true",
  "options_prefix = \"opt_\"",
  "test_prefix = \"test\"",
  "no_docstring_rgx = \"^__.*__$\"",
  "",
  "[rules.header]",
  "copyright = [",
  "    \"# Copyright (c) Twisted Matrix Laboratories.\",",
  "    \"# See LICENSE for details.\",",
  "]",
  "",
  "[rules.spacing]",
  "max_blank_lines = 1"]

/-- What the program says after it has written the file. -/
def nextSteps : List String := [
  "Created " ++ configName,
  "",
  "Next steps:",
  "  1. Edit " ++ configName ++ " to configure checkers",
  "  2. Run: twistlint check"]

def init (world : World) (force : Bool) : Outcome :=
  let path := Path.ofString configName
  if world.exists? path && !force then
    .failing world ("Configuration file already exists at " ++ configName ++
      ". Use --force to overwrite.")
  else if world.tree.isDirectory (world.absolute path) then
    .failing world ("Failed to write " ++ configName)
  else
    { exit := 0
      output := unlines nextSteps
      error := none
      tree := world.tree.write (world.absolute path) (.text (unlines template).toList) }

/-! ## Running -/

def runCommand (world : World) (given : Option Path) : Command → Outcome
  | .check options =>
    match check world given options with
    | .ok (report, failed) =>
      .printing world (if failed then 1 else 0) (report.render options.format)
    | .error message => .failing world message
  | .listMessages =>
    match fullCatalog with
    | .ok catalog => .printing world 0 (unlines (messageList catalog))
    | .error message => .failing world message
  | .init force => init world force

def versionText : String := "twistlint 0.3.0"

/-- Runs the program. Arguments that are not understood give status two. -/
def run (world : World) (args : List String) : Outcome :=
  match Request.ofArguments (world.environment.lookup "TWISTLINT_CONFIG") args with
  | .run given command => runCommand world given command
  | .version => .printing world 0 (unlines [versionText])
  | .help => .printing world 0 ""
  | .misuse => .printing world 2 ""

end CommandLine

end CodingStandard
