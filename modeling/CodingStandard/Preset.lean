import CodingStandard.Checker.Comments
import CodingStandard.Checker.Docstring
import CodingStandard.Checker.Formatting
import CodingStandard.Checker.Header
import CodingStandard.Checker.Names
import CodingStandard.Checker.Python3
import CodingStandard.Checker.Spacing
import CodingStandard.Checker.TestClass
import CodingStandard.Config

namespace CodingStandard

/-!
# Presets

A preset is a choice of checkers and of messages that are off by default. The checkers take their
options from the configuration.
-/

inductive Preset where
  | standard
  /-- The standard and the messages about the ends of lines and files. -/
  | pep8
  /-- The checks that are easy to start with. -/
  | minimal
  deriving DecidableEq, Repr

namespace Preset

/-- The presets in the order in which they are listed. -/
def all : List Preset := [standard, pep8, minimal]

def name : Preset → String
  | standard => "standard"
  | pep8 => "pep8"
  | minimal => "minimal"

/-- The preset with a name, written in letters of either case. -/
def ofName? (name : String) : Option Preset :=
  all.find? fun preset => preset.name == String.ofList (Text.toLower name.toList)

def allCheckers : List String :=
  ["header", "spacing", "docstring", "names", "comments", "formatting", "python3", "testclassname"]

def checkers : Preset → List String
  | standard => allCheckers
  | pep8 => allCheckers
  | minimal => ["header", "formatting", "python3"]

/-- The messages that a preset turns on. -/
def messages : Preset → List String
  | pep8 => [Spacing.trailingWhitespace, Spacing.blankLineWhitespace, Spacing.blankAtEnd,
      Spacing.noNewlineAtEnd].map (·.code)
  | standard => []
  | minimal => []

end Preset

/-- The number of blank lines allowed inside blocks. A negative number is read as one. -/
def Spacing.limit (settings : RuleSettings) : Nat :=
  let limit := settings.integer "max_blank_lines" 1
  if limit < 0 then 1 else limit.toNat

def Header.notice (settings : RuleSettings) : List Text :=
  match settings.strings "copyright" with
  | [] => Header.defaultNotice
  | lines => lines.map String.toList

/-- The expression for the names that need no docstring. -/
def DocstringRule.ignoredNames (settings : RuleSettings) : Except ConfigError Regex :=
  match settings.option? Toml.string? "no_docstring_rgx" with
  | none => .ok DocstringRule.Settings.default.ignored
  | some pattern =>
    match Regex.parse? pattern.toList with
    | some regex => .ok regex
    | none => .error (.invalidPattern "no_docstring_rgx")

def DocstringRule.settings (settings : RuleSettings) :
    Except ConfigError DocstringRule.Settings := do
  return {
    strict := settings.boolean "strict_epydoc" true
    optionStart := settings.string "options_prefix" "opt_"
    testStart := settings.string "test_prefix" "test"
    ignored := ← DocstringRule.ignoredNames settings }

namespace Config

def checkerNamed (config : Config) (name : String) : Except ConfigError Checker :=
  match name with
  | "header" => .ok (Header.checker (Header.notice (config.rule name)))
  | "spacing" => .ok (Spacing.checker (Spacing.limit (config.rule name)))
  | "docstring" => return DocstringRule.checker (← DocstringRule.settings (config.rule name))
  | "names" => .ok Names.checker
  | "comments" => .ok Comments.checker
  | "formatting" => .ok Formatting.checker
  | "python3" => .ok Python3.checker
  | "testclassname" => .ok TestClass.checker
  | _ => .error (.unknownChecker name)

def checkersNamed (config : Config) (names : List String) : Except ConfigError (List Checker) :=
  names.mapM config.checkerNamed

def chosenPreset (config : Config) : Except ConfigError Preset :=
  match config.preset with
  | none => .ok .standard
  | some name =>
    match Preset.ofName? name with
    | some preset => .ok preset
    | none => .error (.unknownPreset name)

/-- The checkers of a configuration, those included that it turns off. -/
def checkers (config : Config) : Except ConfigError (List Checker) := do
  config.checkersNamed (← config.chosenPreset).checkers

end Config

end CodingStandard
