import CodingStandard.Layout.Scan

namespace CodingStandard

/-!
# Suppression directives

A comment `# twistlint: disable=NAMES reason="..."` silences messages on its own line and on the
line below. The names are message codes or symbols, separated by commas; `all` names every
message. The reason is optional.
-/

/-- What a directive silences, and why. -/
structure Directive where
  names : List Text
  reason : Option Text
  deriving DecidableEq, Repr

namespace Directive

/-- The word that opens a directive. -/
def marker : Text := "twistlint:".toList

/-- Whether a comment addresses this program. -/
def isDirective (comment : Text) : Bool :=
  Text.startsWith (Text.trimStart (comment.dropWhile (· == '#'))) marker

/-- The quoted text after `reason=`. -/
def parseReason? (rest : Text) : Option Text := do
  let body ← Text.after? "reason=\"".toList rest
  if body.contains '"' then some (body.takeWhile (· != '"')) else none

def parseNames (list : Text) : List Text :=
  ((Text.splitOn ',' list).map Text.trim).filter (!·.isEmpty)

/-- Reads a directive off a comment. One without any name is none. -/
def parse? (comment : Text) : Option Directive := do
  let body ← Text.after? ['#'] comment
  let command ← Text.after? marker (Text.trim body)
  let argument ← Text.after? "disable".toList (Text.trim command)
  let list ← Text.after? ['='] (Text.trimStart argument)
  let list := Text.trimStart list
  let names := parseNames (list.takeWhile (!Text.isBlank ·))
  if names.isEmpty then none
  else some ⟨names, parseReason? (Text.trim (list.dropWhile (!Text.isBlank ·)))⟩

/-- Whether a directive silences the message with this code and symbol. -/
def covers (directive : Directive) (code symbol : String) : Bool :=
  ["all", code, symbol].any fun name => directive.names.contains name.toList

end Directive

/-- Whether a message is reported, or silenced and why. -/
inductive Verdict where
  | reported
  | silenced (reason : Option Text)
  deriving DecidableEq, Repr

/-- The directives of a file by line. -/
structure Suppressions where
  directives : List (Nat × Directive)
  deriving Repr

namespace Suppressions

def ofScan (scan : Scan) : Suppressions :=
  ⟨scan.physical.filterMap fun line => do
    let comment ← line.comment
    let directive ← Directive.parse? comment.text
    some (line.number, directive)⟩

def onLine? (s : Suppressions) (line : Nat) : Option Directive := s.directives.lookup line

/-- The verdict of one line on a message. -/
def verdictOf? (s : Suppressions) (line : Nat) (code symbol : String) : Option Verdict := do
  let directive ← s.onLine? line
  if directive.covers code symbol then some (.silenced directive.reason) else none

/-- The verdict on a message: the line above is asked first, then the line itself. -/
def check (s : Suppressions) (line : Nat) (code symbol : String) : Verdict :=
  ((s.verdictOf? (line - 1) code symbol).or (s.verdictOf? line code symbol)).getD .reported

end Suppressions

end CodingStandard
