import CodingStandard.Checker.Docstring.Interface
import CodingStandard.Checker.Docstring.Markup
import CodingStandard.Pattern.Regex.Notation

namespace CodingStandard

/-!
# Docstrings

Every module, class and function has a docstring. Its quotes stand on lines of their own, its
lines are indented one level deeper than the definition, and its fields document the parameters
and the returned value after a blank line.
-/

namespace DocstringRule

def notIsolated : MessageDef where
  code := "W9201"
  symbol := "docstring-delimiters-not-isolated"
  summary := "The opening/closing of docstring should be on a line by themselves"
  detail := "Check the opening/closing of a docstring."
  defaultEnabled := true

def missingParam : MessageDef where
  code := "W9202"
  symbol := "missing-param-markup"
  summary := "Missing epytext markup @param for argument \"\x7b\x7d\""
  detail := "Check the epytext markup @param."
  defaultEnabled := true

def missingType : MessageDef where
  code := "W9203"
  symbol := "missing-type-markup"
  summary := "Missing epytext markup @type for argument \"\x7b\x7d\""
  detail := "Check the epytext markup @type."
  defaultEnabled := true

def missingReturn : MessageDef where
  code := "W9204"
  symbol := "missing-return-markup"
  summary := "Missing epytext markup @return for return value"
  detail := "Check the epytext markup @return."
  defaultEnabled := true

def missingReturnType : MessageDef where
  code := "W9205"
  symbol := "missing-rtype-markup"
  summary := "Missing epytext markup @rtype for return value"
  detail := "Check the epytext markup @rtype."
  defaultEnabled := true

def inconsistentIndentation : MessageDef where
  code := "W9206"
  symbol := "inconsistent-docstring-indentation"
  summary := "Docstring should have consistent indentations"
  detail := "Check indentations of docstring."
  defaultEnabled := true

def missingBlankLine : MessageDef where
  code := "W9207"
  symbol := "missing-blank-line-before-markup"
  summary := "Missing a blank line before epytext markups"
  detail := "Check the blank line before epytext markups."
  defaultEnabled := true

def missingDocstring : MessageDef where
  code := "W9208"
  symbol := "missing-docstring"
  summary := "Missing docstring"
  detail := "Used when a module, function, class or method has no docstring."
  defaultEnabled := true

def emptyDocstring : MessageDef where
  code := "W9209"
  symbol := "empty-docstring"
  summary := "Empty docstring"
  detail := "Used when a module, function, class or method has an empty docstring."
  defaultEnabled := true

structure Settings where
  /-- Whether types are required. -/
  strict : Bool
  /-- What the names of option handlers start with; their docstrings are shown to users. -/
  optionStart : String
  /-- What the names of test methods start with; they return nothing of interest. -/
  testStart : String
  ignored : Regex
  deriving Repr

/-- The names with two underscores on both sides. -/
def reservedNames : Regex :=
  .seq (.look .textStart) (.seq (.chars (.just '_')) (.seq (.chars (.just '_'))
    (.seq (.repeated (.chars (CharSet.just '\n').compl) 0 none)
      (.seq (.chars (.just '_')) (.seq (.chars (.just '_')) (.look .textEnd))))))

def Settings.default : Settings := ⟨true, "opt_", "test", reservedNames⟩

/-- Whether the quotes of a docstring stand on lines of their own. -/
def isIsolated (value : Text) : Bool :=
  let inner := Text.dropEndWhile (· == ' ') (value.dropWhile (· == ' '))
  inner.head? == some '\n' && inner.getLast? == some '\n'

/-- The numbers of spaces that lines start with. -/
def leadingSpaces (line : Text) : Nat := (line.takeWhile (· == ' ')).length

/-- The indices, from `index` on, of the lines with another indentation than expected. Blank
lines count only at the end. -/
def misindented (expected index : Nat) : List Text → List Nat
  | [] => []
  | [last] => if leadingSpaces last = expected then [] else [index]
  | line :: rest =>
    (if Text.isWhite line || leadingSpaces line == expected then [] else [index]) ++
      misindented expected (index + 1) rest

/-- The source lines of a docstring with another indentation than expected. The lines are counted
from the line of the opening quotes; empty lines at the start have no indentation to check. -/
def misindentedLines (expected : Nat) (doc : Docstring) : List Nat :=
  let body := doc.value.dropWhile (· == '\n')
  misindented expected (doc.place.line + (doc.value.length - body.length))
    (Text.splitOn '\n' body)

/-- The indentation that the docstring of a node should have. -/
def expectedIndent (m : Module) (node : Nat) : Nat :=
  match m.kind? node with
  | some (.root _) => 0
  | _ => m.columnOf node + 4

def ofLayout (m : Module) (node : Nat) (doc : Docstring) : List Emission :=
  if isIsolated doc.value then
    (misindentedLines (expectedIndent m node) doc).map fun line =>
      .about m node inconsistentIndentation.code line []
  else [.about m node notIsolated.code doc.place.line []]

/-- The parameters of a function that its docstring has to document. -/
def documentedParams (m : Module) (node : Nat) (f : FunctionDef) : List Param :=
  let params := if m.isMethod node && !f.hasDecorator "staticmethod" then f.params.tail
    else f.params
  if f.hasDecoratorEnding ".setter" then
    params.filter fun p => !(p.kind == .regular && p.name == "value")
  else params

def ofParam (settings : Settings) (m : Module) (node : Nat) (doc : Docstring) (p : Param) :
    List Emission :=
  (if Markup.documents "@param" doc.value p.name then []
   else [.about m node missingParam.code doc.place.line [p.name]]) ++
    (if !settings.strict || Markup.documents "@type" doc.value p.name then []
     else [.about m node missingType.code doc.place.line [p.name]])

/-- Whether a statement directly in the body of a function returns a value. -/
def returnsValue (m : Module) (node : Nat) : Bool :=
  (m.children node).any fun child =>
    match m.kind? child with
    | some (.returns (some _)) => true
    | _ => false

/-- Whether the docstring of a function has to describe its result. -/
def needsReturn (settings : Settings) (m : Module) (node : Nat) (f : FunctionDef) : Bool :=
  returnsValue m node && !Text.startsWith f.name.toList settings.testStart.toList &&
    !f.hasDecorator "property"

def ofReturn (settings : Settings) (m : Module) (node : Nat) (f : FunctionDef)
    (doc : Docstring) : List Emission :=
  if needsReturn settings m node f then
    (if Markup.hasReturn doc.value then []
     else [.about m node missingReturn.code doc.place.line []]) ++
      (if !settings.strict || Markup.hasReturnType doc.value then []
       else [.about m node missingReturnType.code doc.place.line []])
  else []

def ofFields (settings : Settings) (m : Module) (node : Nat) (doc : Docstring) :
    List Emission :=
  match m.function? node with
  | none => []
  | some f =>
    if Text.startsWith f.name.toList settings.optionStart.toList then []
    else (documentedParams m node f).flatMap (ofParam settings m node doc) ++
      ofReturn settings m node f doc

def ofBlankLine (m : Module) (node : Nat) (doc : Docstring) : List Emission :=
  if Markup.lacksBlankLine doc.value then
    [.about m node missingBlankLine.code doc.place.line []]
  else []

def ofDocstring (settings : Settings) (m : Module) (node : Nat) (doc : Docstring) :
    List Emission :=
  if Text.isWhite doc.value then [.about m node emptyDocstring.code (m.lineOf node) []]
  else ofLayout m node doc ++ ofFields settings m node doc ++ ofBlankLine m node doc

/-- Whether a definition needs no docstring, whatever its interfaces say: it lies in a function,
or its getter documents it. -/
def isExempt (m : Module) (node : Nat) : Bool :=
  m.isNestedInFunction node || (m.function? node).any (·.hasDecoratorEnding ".setter")

def visitMissing (m : Module) (lib : Library) (node : Nat) : Visit :=
  if isExempt m node then .emitting lib []
  else
    match Interface.documents m lib node with
    | (.ok true, lib) => .emitting lib []
    | (.ok false, lib) =>
      .emitting lib [.about m node missingDocstring.code (m.lineOf node) []]
    | (.error e, lib) => ⟨[], lib, some e⟩

def isIgnored (settings : Settings) (m : Module) (node : Nat) : Bool :=
  (m.name? node).any fun name => settings.ignored.matchesIn name.toList

def visit (settings : Settings) (m : Module) (lib : Library) (node : Nat) : Visit :=
  if isIgnored settings m node then .emitting lib []
  else
    match m.doc? node with
    | some doc => .emitting lib (ofDocstring settings m node doc)
    | none => visitMissing m lib node

def checker (settings : Settings) : Checker where
  name := "docstring"
  description := "Checks docstring presence, layout and epytext markup"
  messages := [notIsolated, missingParam, missingType, missingReturn, missingReturnType,
    inconsistentIndentation, missingBlankLine, missingDocstring, emptyDocstring]
  hooks := [.root, .classDef, .functionDef]
  enter site lib := visit settings site.home lib site.node

end DocstringRule

end CodingStandard
