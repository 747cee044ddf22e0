import CodingStandard.Checker

namespace CodingStandard

/-!
# Constructs that Python 3 removed

The `print` statement, which is reported once for a module, `has_key` on a value known to be a
dictionary, the built-in `apply`, and `except` with a comma.
-/

namespace Python3

def printStatement : MessageDef where
  code := "W9601"
  symbol := "print-statement"
  summary := "For compatibility with python 3, you should import print_function from __future__"
  detail := "Checking print statement for python 3."
  defaultEnabled := true

def dictHasKey : MessageDef where
  code := "W9602"
  symbol := "dict-has-key"
  summary := "dict.has_key() has been removed in python 3, use the in operator instead"
  detail := "Checking has_key issue for python 3."
  defaultEnabled := true

def builtinApply : MessageDef where
  code := "W9603"
  symbol := "builtin-apply"
  summary := "The built-in function apply is removed in python 3"
  detail := "Checking apply issue for python 3."
  defaultEnabled := true

def oldExcept : MessageDef where
  code := "W9604"
  symbol := "old-except-syntax"
  summary := "Please use 'except Exception as e:', rather than 'except Exception, e:'"
  detail := "Checking exception issue for python 3."
  defaultEnabled := true

/-- Whether an expression is a dictionary display. -/
def isDict : Expr → Bool
  | .dict _ => true
  | _ => false

/-- Whether a call asks a dictionary for a key by `has_key`. -/
def callsDictHasKey (m : Module) (node : Nat) (call : Call) : Bool :=
  match call.func with
  | .member _ object attr =>
    attr == "has_key" &&
      match object with
      | .dict _ => true
      | .name origin => (m.precedingValue? node origin.text).any isDict
      | _ => false
  | _ => false

/-- Whether the name `apply` means the built-in function at a node. Code inside a function runs
later, so every binding that it can see hides the built-in; other code sees only what is bound
up to its line. -/
def seesBuiltinApply (m : Module) (node : Nat) : Bool :=
  match m.lookup? node "apply" with
  | none => true
  | some binding => !m.isNestedInFunction node && binding.line > m.lineOf node

def callsBuiltinApply (m : Module) (node : Nat) (call : Call) : Bool :=
  match call.func with
  | .name origin => origin.text == "apply" && seesBuiltinApply m node
  | _ => false

def codes (site : Site) : List String :=
  match site.home.kind? site.node with
  | some .print =>
    if site.attempted.contains printStatement.code then [] else [printStatement.code]
  | some (.call call) =>
    (if callsDictHasKey site.home site.node call then [dictHasKey.code] else []) ++
      (if callsBuiltinApply site.home site.node call then [builtinApply.code] else [])
  | some (.exceptHandler true) => [oldExcept.code]
  | _ => []

def findings (site : Site) : List Emission :=
  (codes site).map fun code =>
    .about site.home site.node code (site.home.lineOf site.node) []

def checker : Checker where
  name := "python3"
  description := "Checks for constructs removed in Python 3"
  messages := [printStatement, dictHasKey, builtinApply, oldExcept]
  hooks := [.print, .call, .exceptHandler]
  enter site lib := .emitting lib (findings site)

end Python3

end CodingStandard
