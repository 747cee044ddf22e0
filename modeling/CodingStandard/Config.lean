import CodingStandard.Message.Policy
import CodingStandard.Path
import CodingStandard.Toml.Reader

namespace CodingStandard

/-!
# Configuration

A configuration chooses the checkers, their options and the messages that are reported. Keys that
it does not know are ignored; a value of the wrong type makes the whole file invalid.
-/

inductive ConfigError where
  /-- The file is no document, or some value has the wrong type. -/
  | malformed
  | unknownPreset (name : String)
  | unknownChecker (name : String)
  | unknownSeverity (name : String)
  /-- The value of an option is no regular expression. -/
  | invalidPattern (key : String)
  deriving DecidableEq, Repr

namespace ConfigError

def cause : ConfigError → String
  | malformed => "not a configuration"
  | unknownPreset name => "Unknown preset: " ++ name
  | unknownChecker name => "Unknown checker: " ++ name
  | unknownSeverity name => "unknown severity: " ++ String.ofList (Text.toLower name.toList)
  | invalidPattern key => "Invalid pattern for " ++ key

def message : ConfigError → String
  | invalidPattern key => cause (invalidPattern key)
  | error => "Failed to parse config: " ++ error.cause

end ConfigError

namespace Toml

/-- The fields of a section. An array gives them in the order of their names. -/
def section? (names : List String) : Toml → Option (List (String × Toml))
  | table entries => some entries
  | array items => some (names.zip items)
  | _ => none

def fieldOr {α : Type} (default : α) (read : Toml → Option α) (key : String)
    (entries : List (String × Toml)) : Option α :=
  match entries.lookup key with
  | some value => read value
  | none => some default

def field? {α : Type} (read : Toml → Option α) (key : String) (entries : List (String × Toml)) :
    Option (Option α) :=
  fieldOr none (fun value => (read value).map some) key entries

/-- The severity that a value names in lower case, as a string or as the only key of a table that
holds nothing else. -/
def severity? : Toml → Option Severity
  | string name => ofName name
  | table [(name, table [])] => ofName name
  | table [(name, array [])] => ofName name
  | _ => none
where
  ofName (name : String) : Option Severity :=
    [Severity.info, .warning, .error].find? (·.name == name)

def paths? (value : Toml) : Option (List Path) := value.strings?.map (·.map Path.ofString)

end Toml

/-- Where to look for files. -/
structure SearchSettings where
  root : Path
  exclude : List String
  respectGitignore : Bool
  /-- Further directories in which imported modules are searched. -/
  pythonPath : List Path
  deriving Repr

namespace SearchSettings

/-- The settings of a configuration that has no section for them. -/
def default : SearchSettings := ⟨.ofString ".", ["**/build/**", "**/.tox/**"], true, []⟩

/-- Reads the section. Nothing is excluded unless it says so. -/
def ofToml? (value : Toml) : Option SearchSettings := do
  let fields ← value.section? ["root", "exclude", "respect_gitignore", "python_path"]
  let root ← Toml.fieldOr default.root (fun v => v.string?.map .ofString) "root" fields
  let exclude ← Toml.fieldOr [] Toml.strings? "exclude" fields
  let respect ← Toml.fieldOr true Toml.boolean? "respect_gitignore" fields
  let pythonPath ← Toml.fieldOr [] Toml.paths? "python_path" fields
  some ⟨root, exclude, respect, pythonPath⟩

end SearchSettings

/-- Reads the section that turns messages on and off. -/
def MessageFilter.ofToml? (value : Toml) : Option MessageFilter := do
  let fields ← value.section? ["enable", "disable"]
  some ⟨← Toml.fieldOr [] Toml.strings? "enable" fields,
    ← Toml.fieldOr [] Toml.strings? "disable" fields⟩

structure RuleSettings where
  enabled : Option Bool
  /-- The severity of all its messages. -/
  severity : Option Severity
  /-- The options that only the checker itself understands. -/
  options : List (String × Toml)
  deriving Repr

namespace RuleSettings

def none : RuleSettings := ⟨.none, .none, []⟩

def ofToml? (value : Toml) : Option RuleSettings := do
  let fields ← value.entries?
  let enabled ← Toml.field? Toml.boolean? "enabled" fields
  let severity ← Toml.field? Toml.severity? "severity" fields
  some ⟨enabled, severity, fields.filter fun (key, _) => key != "enabled" && key != "severity"⟩

def option? {α : Type} (settings : RuleSettings) (read : Toml → Option α) (key : String) :
    Option α :=
  (settings.options.lookup key).bind read

def boolean (settings : RuleSettings) (key : String) (default : Bool) : Bool :=
  (settings.option? Toml.boolean? key).getD default

def integer (settings : RuleSettings) (key : String) (default : Int) : Int :=
  (settings.option? Toml.integer? key).getD default

def string (settings : RuleSettings) (key : String) (default : String) : String :=
  (settings.option? Toml.string? key).getD default

/-- The strings of an array; items of other types are passed over. -/
def strings (settings : RuleSettings) (key : String) : List String :=
  ((settings.option? Toml.items? key).getD []).filterMap Toml.string?

end RuleSettings

structure Config where
  preset : Option String
  /-- The severity from which on a violation makes a run fail. -/
  failOn : Option String
  search : SearchSettings
  messages : MessageFilter
  rules : List (String × RuleSettings)
  deriving Repr

namespace Config

/-- The configuration of an empty file. -/
def default : Config := ⟨none, none, .default, .none, []⟩

def rulesOf? (value : Toml) : Option (List (String × RuleSettings)) := do
  (← value.entries?).mapM fun (name, body) => do some (name, ← RuleSettings.ofToml? body)

def ofToml? (value : Toml) : Option Config := do
  let fields ← value.entries?
  let preset ← Toml.field? Toml.string? "preset" fields
  let failOn ← Toml.field? Toml.string? "fail_on" fields
  let search ← Toml.fieldOr .default SearchSettings.ofToml? "analyzer" fields
  let messages ← Toml.fieldOr .none MessageFilter.ofToml? "messages" fields
  let rules ← Toml.fieldOr [] rulesOf? "rules" fields
  some ⟨preset, failOn, search, messages, rules⟩

def parse (t : Text) : Except ConfigError Config :=
  match (Toml.parse? t).bind ofToml? with
  | some config => .ok config
  | none => .error .malformed

def rule (config : Config) (checker : String) : RuleSettings :=
  (config.rules.lookup checker).getD .none

/-- Whether a checker is on; it is unless it is turned off. -/
def isEnabled (config : Config) (checker : String) : Bool :=
  (config.rule checker).enabled.getD true

/-- The severities set for whole checkers. -/
def severities (config : Config) : List (String × Severity) :=
  config.rules.filterMap fun (name, settings) => settings.severity.map (name, ·)

/-- The severity from which on a violation makes a run fail: warnings unless it is set. -/
def failThreshold (config : Config) : Except ConfigError Severity :=
  match config.failOn with
  | none => .ok .warning
  | some name =>
    match Severity.ofName? name with
    | some severity => .ok severity
    | none => .error (.unknownSeverity name)

end Config

end CodingStandard
