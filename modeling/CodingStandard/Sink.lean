import CodingStandard.Layout.Offset
import CodingStandard.Message.Policy
import CodingStandard.ModuleName
import CodingStandard.Suppression
import CodingStandard.Violation

namespace CodingStandard

/-!
# Recording messages

A checker emits messages without asking whether they are wanted. The sink of a file drops those
that the catalog does not know, that the policy turns off or that a directive silences, and
turns the others into violations.
-/

/-- A file under examination. -/
structure SourceFile where
  path : Path
  content : Text
  moduleName : String
  shownAs : Path
  deriving Repr

namespace SourceFile

/-- A file whose path is shown relative to a root. -/
def under (root path : Path) (content : Text) (moduleName : String) : SourceFile :=
  ⟨path, content, moduleName, path.relativeTo root⟩

def isTest (file : SourceFile) : Bool := ModuleName.isTest file.moduleName

/-- Whether the header must name the test module. -/
def requiresTestReference (file : SourceFile) : Bool :=
  ModuleName.requiresTestReference file.moduleName

end SourceFile

/-- A message as a checker emits it. Column zero means that it has none. -/
structure Emission where
  /-- The code or the symbol of the message. -/
  message : String
  line : Nat
  column : Nat
  args : List String
  node : Option Nat
  deriving DecidableEq, Repr

/-- The collected messages of one file. -/
structure Sink where
  catalog : Catalog
  policy : Policy
  file : SourceFile
  suppressions : Suppressions
  /-- The codes of the known messages emitted so far, reported or not. -/
  attempted : List String
  violations : List Violation

namespace Sink

def start (catalog : Catalog) (policy : Policy) (file : SourceFile)
    (suppressions : Suppressions) : Sink :=
  ⟨catalog, policy, file, suppressions, [], []⟩

/-- The line of the file that is closest to a line number. -/
def clampLine (content : Text) (line : Nat) : Nat :=
  max 1 (min line (max 1 (Text.lines content).length))

/-- The place of a message in the file. A message without column covers its line. -/
def locate (file : SourceFile) (line column : Nat) : Location where
  file := file.shownAs
  line := line
  column := column
  offset := Text.offsetAt file.content line (max column 1)
  length := if column = 0 then Text.lineLength file.content line else 0

/-- The violation that a message becomes. -/
def violationOf (sink : Sink) (entry : CatalogEntry) (e : Emission) : Violation where
  code := entry.message.code
  symbol := entry.message.symbol
  checker := entry.checker
  severity := sink.policy.severity entry.message.code
  location := locate sink.file (clampLine sink.file.content e.line) e.column
  message := entry.message.render e.args
  args := e.args
  node := e.node

/-- Whether a message of the catalog is reported when it is emitted on a line. -/
def reports (sink : Sink) (entry : CatalogEntry) (line : Nat) : Bool :=
  sink.policy.isEnabled entry.message.code &&
    sink.suppressions.check (clampLine sink.file.content line) entry.message.code
      entry.message.symbol == .reported

def record (sink : Sink) (e : Emission) : Sink :=
  match sink.catalog.get? e.message with
  | none => sink
  | some entry =>
    let noted := { sink with attempted := sink.attempted ++ [entry.message.code] }
    if sink.reports entry e.line then
      { noted with violations := sink.violations ++ [sink.violationOf entry e] }
    else noted

def recordAll (sink : Sink) (es : List Emission) : Sink := es.foldl record sink

/-- Whether a message was emitted before, reported or not. -/
def alreadyEmitted (sink : Sink) (code : String) : Bool := sink.attempted.contains code

end Sink

end CodingStandard
