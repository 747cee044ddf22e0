import CodingStandard.Json
import CodingStandard.Violation

namespace CodingStandard

/-!
# Printing reports
-/

inductive ReportFormat where
  /-- For reading at a terminal. -/
  | text
  | json
  /-- A line for each violation. -/
  | compact
  deriving DecidableEq, Repr

def ReportFormat.ofName? : String → Option ReportFormat
  | "text" => some text
  | "json" => some json
  | "compact" => some compact
  | _ => none

inductive Colour where
  | red
  | green
  | yellow
  | blue
  deriving DecidableEq, Repr

namespace Colour

def code : Colour → String
  | red => "31"
  | green => "32"
  | yellow => "33"
  | blue => "34"

def paint (colour : Colour) (text : String) : String :=
  "\x1b[" ++ colour.code ++ "m" ++ text ++ "\x1b[0m"

end Colour

def Severity.colour : Severity → Colour
  | error => .red
  | warning => .yellow
  | info => .blue

/-- Text lines, each with its newline. -/
def unlines (lines : List String) : String :=
  lines.foldl (fun text line => text ++ line ++ "\n") ""

namespace Violation

def textLines (v : Violation) : List String :=
  [v.code ++ " " ++ v.symbol ++ " at " ++ v.location.file.toString ++ ":" ++
      toString v.location.line ++ ":" ++ toString v.location.column,
    "  " ++ v.severity.colour.paint v.severity.name ++ ": " ++ v.message,
    ""]

def locationJson (l : Location) : Json :=
  .object [("file", .string l.file.toString), ("line", .number l.line),
    ("column", .number l.column), ("offset", .number l.offset), ("length", .number l.length)]

/-- The violation as a value. Arguments and node are left out if there are none. -/
def json (v : Violation) : Json :=
  .object <|
    [("code", .string v.code), ("symbol", .string v.symbol), ("checker", .string v.checker),
      ("severity", .string v.severity.name), ("location", locationJson v.location),
      ("message", .string v.message)] ++
    (if v.args.isEmpty then [] else [("args", .array (v.args.map .string))]) ++
    (v.node.map fun node => ("node", Json.number node)).toList

end Violation

namespace Report

/-- The colour of the summary: that of the gravest violation above mere information. -/
def summaryColour (report : Report) : Colour :=
  if report.count .error > 0 then .red
  else if report.count .warning > 0 then .yellow
  else .green

def summaryLines (report : Report) : List String :=
  [report.summaryColour.paint
    ("Found " ++ toString (report.count .error) ++ " error(s), " ++
      toString (report.count .warning) ++ " warning(s), " ++ toString (report.count .info) ++
      " info(s) in " ++ toString report.filesChecked ++ " file(s)")] ++
  (if report.filesFailed > 0 then
    [Colour.red.paint (toString report.filesFailed ++ " file(s) could not be fully checked")]
   else [])

def json (report : Report) : Json :=
  .object [("violations", .array (report.violations.map Violation.json)),
    ("files_checked", .number report.filesChecked), ("files_failed", .number report.filesFailed)]

def lines (report : Report) : ReportFormat → List String
  | .text => report.violations.flatMap Violation.textLines ++ report.summaryLines
  | .json => [report.json.render]
  | .compact => report.violations.map Violation.render

def render (report : Report) (format : ReportFormat) : String := unlines (report.lines format)

end Report

end CodingStandard
