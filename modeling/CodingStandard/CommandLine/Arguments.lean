import CodingStandard.Report.Format

namespace CodingStandard

/-!
# Command line arguments

An argument is an option, with a value or without, or a plain word. Options are written with two
dashes and their name, or with one dash and a letter; letters can be run together, and a value
may follow after an equals sign, as the next argument or, for a letter, right away.
-/

structure Switch where
  name : String
  letter : Option Char
  /-- Whether a value belongs to it. -/
  valued : Bool
  /-- Whether it may be given more than once. -/
  repeatable : Bool
  deriving DecidableEq, Repr

inductive Argument where
  | flag (name : String)
  | option (name value : String)
  | word (text : String)
  deriving DecidableEq, Repr

namespace Argument

/-- Whether an argument starts an option, so that it is no value. -/
def startsOption (arg : String) : Bool := arg != "-" && Text.startsWith arg.toList ['-']

def nextValue? : List String → Option (String × List String)
  | value :: rest => if startsOption value then none else some (value, rest)
  | [] => none

/-- Reads an option that is written with its name. -/
def readLong? (switches : List Switch) (body : Text) (rest : List String) :
    Option (List Argument × List String) := do
  let name := String.ofList (body.takeWhile (· != '='))
  let value := (body.dropWhile (· != '=')).tail?
  let switch ← switches.find? (·.name == name)
  match switch.valued, value with
  | true, some value => some ([.option name (String.ofList value)], rest)
  | true, none => do
    let (value, rest) ← nextValue? rest
    some ([.option name value], rest)
  | false, none => some ([.flag name], rest)
  | false, some _ => none

/-- Reads letters that are run together. -/
def readLetters? (switches : List Switch) (rest : List String) :
    (letters : Text) → Option (List Argument × List String)
  | [] => some ([], rest)
  | letter :: letters => do
    let switch ← switches.find? (·.letter == some letter)
    if switch.valued then
      match letters with
      | [] => do
        let (value, rest) ← nextValue? rest
        some ([.option switch.name value], rest)
      | _ => do
        let value := (Text.after? ['='] letters).getD letters
        some ([.option switch.name (String.ofList value)], rest)
    else do
      let (args, rest) ← readLetters? switches rest letters
      some (.flag switch.name :: args, rest)

/-- What the reader of arguments comes upon. -/
inductive Read where
  | options (read : List Argument) (rest : List String)
  | plain (text : String) (rest : List String)
  /-- The mark after which all arguments are plain words. -/
  | onlyWords (rest : List String)
  | done
  | fault

def read (switches : List Switch) : List String → Read
  | [] => .done
  | arg :: rest =>
    let options (read : Option (List Argument × List String)) : Read :=
      match read with
      | some (args, rest) => .options args rest
      | none => .fault
    match arg.toList with
    | '-' :: '-' :: [] => .onlyWords rest
    | '-' :: '-' :: body => options (readLong? switches body rest)
    | '-' :: letter :: letters => options (readLetters? switches rest (letter :: letters))
    | _ => .plain arg rest

def values (args : List Argument) (name : String) : List String :=
  args.filterMap fun
    | option given value => if given = name then some value else none
    | _ => none

def has (args : List Argument) (name : String) : Bool := args.contains (flag name)

/-- The plain words. -/
def words (args : List Argument) : List String :=
  args.filterMap fun
    | word text => some text
    | _ => none

def names (args : List Argument) : List String :=
  args.filterMap fun
    | flag name => some name
    | option name _ => some name
    | word _ => none

/-- Whether no option is given twice that may be given once only. -/
def respects (switches : List Switch) (args : List Argument) : Bool :=
  switches.all fun s => s.repeatable || (names args).count s.name ≤ 1

end Argument

structure CheckOptions where
  path : Path
  format : ReportFormat
  /-- The names of the checkers, with commas between them. -/
  rules : Option String
  exclude : List String
  preset : Option String
  deriving Repr

inductive Command where
  | check (options : CheckOptions)
  | listMessages
  /-- Write a configuration file, and whether over another one. -/
  | init (force : Bool)
  deriving Repr

inductive Request where
  | run (config : Option Path) (command : Command)
  | version
  | help
  | misuse
  deriving Repr

namespace Request

def globalSwitches : List Switch := [
  ⟨"verbose", some 'v', false, false⟩,
  ⟨"config", some 'c', true, false⟩,
  ⟨"help", some 'h', false, false⟩]

/-- The options before the command. -/
def mainSwitches : List Switch := ⟨"version", some 'V', false, false⟩ :: globalSwitches

def checkSwitches : List Switch := [
  ⟨"format", some 'f', true, false⟩,
  ⟨"rules", none, true, false⟩,
  ⟨"exclude", some 'e', true, true⟩,
  ⟨"preset", none, true, false⟩,
  ⟨"pep8", none, false, false⟩,
  ⟨"rich", none, false, false⟩] ++ globalSwitches

def initSwitches : List Switch := ⟨"force", none, false, false⟩ :: globalSwitches

/-- The arguments of a command, or the request that ends the reading early. -/
inductive Reading where
  | complete (args : List Argument)
  | ended (request : Request)

def asksHelp (args : List Argument) : Bool := Argument.has args "help"

/-- Reads the arguments of a command, at most `bound` times; `sofar` have been read. -/
def readWithin (switches : List Switch) : (bound : Nat) → (sofar : List Argument) →
    List String → Reading
  | 0, sofar, _ => .complete sofar
  | bound + 1, sofar, args =>
    match Argument.read switches args with
    | .done => .complete sofar
    | .fault => .ended .misuse
    | .onlyWords rest => .complete (sofar ++ rest.map .word)
    | .plain text rest => readWithin switches bound (sofar ++ [.word text]) rest
    | .options read rest =>
      if !Argument.respects switches (sofar ++ read) then .ended .misuse
      else if asksHelp read then .ended .help
      else readWithin switches bound (sofar ++ read) rest

/-- Reads the arguments of a command. Each reading takes an argument at least. -/
def readAll (switches : List Switch) (args : List String) : Reading :=
  readWithin switches (args.length + 1) [] args

def path? (text : String) : Option Path := if text = "" then none else some (.ofString text)

/-- The value of an option that takes a path; an empty one is refused. -/
def pathOf? (value : Option String) : Option (Option Path) :=
  match value with
  | none => some none
  | some text => (path? text).map some

/-- The configuration file that is given: after the command, before it, or in the environment. -/
def configOf? (outer inner : List Argument) (environment : Option String) :
    Option (Option Path) := do
  let fallback ← pathOf? environment
  let before ← pathOf? (Argument.values outer "config").head?
  let after ← pathOf? (Argument.values inner "config").head?
  some (after.or (before.or fallback))

def checkOf? (args : List Argument) : Option Command := do
  let path ← match Argument.words args with
    | [] => some (.ofString ".")
    | [text] => path? text
    | _ => none
  let format ← ReportFormat.ofName? ((Argument.values args "format").head?.getD "text")
  let preset := (Argument.values args "preset").head?
  if preset.isSome && Argument.has args "pep8" then none
  else some (.check {
    path, format
    rules := (Argument.values args "rules").head?
    exclude := Argument.values args "exclude"
    preset := if Argument.has args "pep8" then some "pep8" else preset })

/-- The command without arguments of its own. -/
def plainCommand? (command : Command) (args : List Argument) : Option Command :=
  if (Argument.words args).isEmpty then some command else none

def ofCommand (outer : List Argument) (environment : Option String) (switches : List Switch)
    (command? : List Argument → Option Command) (args : List String) : Request :=
  match readAll switches args with
  | .ended request => request
  | .complete inner =>
    match configOf? outer inner environment, command? inner with
    | some config, some command => .run config command
    | _, _ => .misuse

def ofName (outer : List Argument) (environment : Option String) (name : String)
    (args : List String) : Request :=
  match name with
  | "check" => ofCommand outer environment checkSwitches checkOf? args
  | "list-msgs" =>
    ofCommand outer environment globalSwitches (plainCommand? .listMessages) args
  | "init" =>
    ofCommand outer environment initSwitches
      (fun inner => plainCommand? (.init (Argument.has inner "force")) inner) args
  | "help" => .help
  | _ => .misuse

/-- Reads the options before the command, at most `bound` times, and then the command. -/
def ofArgumentsWithin (environment : Option String) : (bound : Nat) → (outer : List Argument) →
    List String → Request
  | 0, _, _ => .misuse
  | bound + 1, outer, args =>
    match Argument.read mainSwitches args with
    | .done => .misuse
    | .fault => .misuse
    | .onlyWords _ => .misuse
    | .plain name rest => ofName outer environment name rest
    | .options read rest =>
      if !Argument.respects mainSwitches (outer ++ read) then .misuse
      else if Argument.has read "version" then .version
      else if asksHelp read then .help
      else ofArgumentsWithin environment bound (outer ++ read) rest

/-- The request of a command line; `environment` is the configuration file that the environment
names. -/
def ofArguments (environment : Option String) (args : List String) : Request :=
  ofArgumentsWithin environment (args.length + 1) [] args

end Request

end CodingStandard
