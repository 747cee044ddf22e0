import CodingStandard.Text

namespace CodingStandard

/-!
# Severities
-/

/-- How grave a message is. -/
inductive Severity where
  | info
  | warning
  | error
  deriving DecidableEq, Repr

namespace Severity

/-- The position on the scale. -/
def rank : Severity → Nat
  | info => 0
  | warning => 1
  | error => 2

def name : Severity → String
  | info => "info"
  | warning => "warning"
  | error => "error"

/-- The severity that the first letter of a code stands for. -/
def ofCode (code : String) : Severity :=
  match code.toList.head? with
  | some 'F' => error
  | some 'E' => error
  | some 'C' => info
  | some 'R' => info
  | _ => warning

/-- The severity with a name, written in letters of either case. -/
def ofName? (name : String) : Option Severity :=
  match String.ofList (Text.toLower name.toList) with
  | "info" => some info
  | "warning" => some warning
  | "error" => some error
  | _ => none

end Severity

end CodingStandard
