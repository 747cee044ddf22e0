import CodingStandard.Severity

namespace CodingStandard

/-!
# The message catalog

Every checker declares its messages once. The catalog merges the declarations and refuses a code
or a symbol that is already taken, so a message can be named by either of the two.
-/

structure MessageDef where
  code : String
  symbol : String
  /-- The text of the message; each pair of braces takes the next argument. -/
  summary : String
  detail : String
  defaultEnabled : Bool
  deriving DecidableEq, Repr

namespace MessageDef

def severity (msg : MessageDef) : Severity := .ofCode msg.code

/-- Fills the placeholders of a template from the left. A placeholder without an argument stays,
and an argument without a placeholder is dropped. -/
def fill : Text → List Text → Text
  | '\x7b' :: '\x7d' :: t, [] => '\x7b' :: '\x7d' :: fill t []
  | '\x7b' :: '\x7d' :: t, arg :: args => arg ++ fill t args
  | c :: t, args => c :: fill t args
  | [], _ => []

def render (msg : MessageDef) (args : List String) : String :=
  String.ofList (fill msg.summary.toList (args.map String.toList))

end MessageDef

/-- A message and the checker that owns it. -/
structure CatalogEntry where
  message : MessageDef
  checker : String
  deriving DecidableEq, Repr

inductive CatalogError where
  | duplicateCode (code first second : String)
  | duplicateSymbol (symbol first second : String)
  deriving DecidableEq, Repr

def CatalogError.message : CatalogError → String
  | duplicateCode code first second =>
    "duplicate message code " ++ code ++ " (declared by " ++ first ++ " and " ++ second ++ ")"
  | duplicateSymbol symbol first second =>
    "duplicate message symbol " ++ symbol ++ " (declared by " ++ first ++ " and " ++ second ++ ")"

/-- The registered messages, in the order of their registration. -/
structure Catalog where
  registered : List CatalogEntry
  deriving DecidableEq, Repr

namespace Catalog

def empty : Catalog := ⟨[]⟩

/-- The message about a file whose checking was given up. -/
def abortMessage : MessageDef where
  code := "F9001"
  symbol := "fatal-check-error"
  summary := "Checking aborted: \x7b\x7d"
  detail := "A checker hit a lookup failure or a structural assumption violation. " ++
    "Diagnostics emitted before the failure are kept, the rest of the file was not checked."
  defaultEnabled := true

/-- The name that owns the messages of the program itself. -/
def host : String := "host"

/-- The catalog that holds the program's own message. -/
def initial : Catalog := ⟨[⟨abortMessage, host⟩]⟩

def byCode? (catalog : Catalog) (code : String) : Option CatalogEntry :=
  catalog.registered.find? (·.message.code == code)

def bySymbol? (catalog : Catalog) (symbol : String) : Option CatalogEntry :=
  catalog.registered.find? (·.message.symbol == symbol)

/-- The entry that a name denotes: a code first, a symbol otherwise. -/
def get? (catalog : Catalog) (name : String) : Option CatalogEntry :=
  (catalog.byCode? name).or (catalog.bySymbol? name)

/-- The reason that keeps a message out of the catalog. -/
def conflict? (catalog : Catalog) (checker : String) (msg : MessageDef) : Option CatalogError :=
  match catalog.byCode? msg.code with
  | some taken => some (.duplicateCode msg.code taken.checker checker)
  | none =>
    (catalog.bySymbol? msg.symbol).map fun taken =>
      .duplicateSymbol msg.symbol taken.checker checker

def push (catalog : Catalog) (checker : String) (msg : MessageDef) : Catalog :=
  ⟨catalog.registered ++ [⟨msg, checker⟩]⟩

/-- Registers the messages of a checker up to the first one that is taken. -/
def register (catalog : Catalog) (checker : String) :
    List MessageDef → Catalog × Option CatalogError
  | [] => (catalog, none)
  | msg :: rest =>
    match catalog.conflict? checker msg with
    | some error => (catalog, some error)
    | none => (catalog.push checker msg).register checker rest

/-- The entries in the order of their codes. -/
def entries (catalog : Catalog) : List CatalogEntry :=
  catalog.registered.mergeSort fun a b => (compare a.message.code b.message.code).isLE

def codes (catalog : Catalog) : List String := catalog.entries.map (·.message.code)

def size (catalog : Catalog) : Nat := catalog.registered.length

end Catalog

end CodingStandard
