import CodingStandard.Path
import CodingStandard.Severity

namespace CodingStandard

/-!
# Violations and reports
-/

/-- A place in a file. Lines and columns count from one; column zero means the whole line. -/
structure Location where
  file : Path
  line : Nat
  column : Nat
  offset : Nat
  length : Nat
  deriving DecidableEq, Repr

structure Violation where
  code : String
  symbol : String
  checker : String
  severity : Severity
  location : Location
  message : String
  args : List String
  /-- The node of the module that the message is about. -/
  node : Option Nat
  deriving DecidableEq, Repr

namespace Violation

/-- The violation on one line of text. -/
def render (v : Violation) : String :=
  v.location.file.toString ++ ":" ++ toString v.location.line ++ ":" ++
    toString v.location.column ++ ": " ++ v.severity.name ++ " [" ++ v.code ++ "] " ++ v.message

/-- The order of reports: by file, line, code and column. -/
def order (a b : Violation) : Ordering :=
  (Path.order a.location.file b.location.file).then
    ((compare a.location.line b.location.line).then
      ((compare a.code b.code).then (compare a.location.column b.location.column)))

/-- Sorts violations into the order of reports. Those that tie keep their order. -/
def sort (vs : List Violation) : List Violation := vs.mergeSort fun a b => (order a b).isLE

end Violation

structure Report where
  violations : List Violation
  filesChecked : Nat
  filesFailed : Nat
  deriving Repr

namespace Report

def empty : Report := ⟨[], 0, 0⟩

def bySeverity (report : Report) (severity : Severity) : List Violation :=
  report.violations.filter (·.severity == severity)

def count (report : Report) (severity : Severity) : Nat := (report.bySeverity severity).length

def hasErrors (report : Report) : Bool := report.violations.any (·.severity == .error)

/-- Whether some violation is at least as grave as a threshold. -/
def reaches (report : Report) (severity : Severity) : Bool :=
  report.violations.any fun v => severity.rank ≤ v.severity.rank

/-- The report of two runs, one after the other. -/
def append (a b : Report) : Report :=
  ⟨a.violations ++ b.violations, a.filesChecked + b.filesChecked, a.filesFailed + b.filesFailed⟩

def sort (report : Report) : Report :=
  { report with violations := Violation.sort report.violations }

end Report

end CodingStandard
