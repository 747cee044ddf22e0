import CodingStandard.Checker

namespace CodingStandard

/-!
# String formatting

The right operand of `%` after a string literal is a tuple, unless the literal names its values.
-/

namespace Formatting

def notTuple : MessageDef where
  code := "W9501"
  symbol := "formatting-operation-not-tuple"
  summary := "String formatting operations should always use a tuple for non-mapping values"
  detail := "Checking string formatting operations."
  defaultEnabled := true

/-- Whether a part between two percent signs is a number. -/
def isNumber (part : Text) : Bool :=
  let body := Text.trim part
  body.any Char.isDigit && body.all fun c => c.isDigit || c == '.'

/-- Whether a format takes its values by name, or has a number next to a percent sign. -/
def isExempt (format : Text) : Bool :=
  Text.occursIn "%(".toList format || (Text.splitOn '%' format).any isNumber

/-- Whether an operation formats a literal with a bare value. -/
def isBare (operation : BinOp) : Bool :=
  operation.op == "%" &&
    match operation.left, operation.right with
    | .str _ _, .tuple _ _ => false
    | .str _ format, _ => !isExempt format
    | _, _ => false

def findings (site : Site) : List Emission :=
  match site.home.kind? site.node with
  | some (.binOp operation) =>
    if isBare operation then
      [.about site.home site.node notTuple.code (site.home.lineOf site.node) []]
    else []
  | _ => []

def checker : Checker where
  name := "formatting"
  description := ""
  messages := [notTuple]
  hooks := [.binOp]
  enter site lib := .emitting lib (findings site)

end Formatting

end CodingStandard
