import CodingStandard.Checker

namespace CodingStandard

/-!
# Names of test classes

In a test module, the name of a class that defines a test method and derives from `TestCase`,
directly or through classes of the module, ends in `Tests`.
-/

namespace TestClass

/-- A test class with another name. -/
def notEndingWithTests : MessageDef where
  code := "W9701"
  symbol := "test-class-name-not-ending-with-tests"
  summary := "Test class names should end with Tests"
  detail := "Used for checking test class names."
  defaultEnabled := true

/-- Whether a method whose name starts with `test` is a direct child of a class. -/
def hasTestMethods (m : Module) (node : Nat) : Bool :=
  (m.children node).any fun child =>
    (m.function? child).any fun f => Text.startsWith f.name.toList "test".toList

/-- Whether an expression names a `TestCase`, in whatever module. -/
def isTestCase (base : Expr) : Bool := ModuleName.baseName base.label == "TestCase"

/-- The class of the module that an expression names. -/
def baseClass? (m : Module) (base : Expr) : Option ClassDef :=
  (m.topLevelClass? base.label).bind m.class?

/-- Asks each base in turn, handing on the names of the classes seen so far. -/
def anyBase (m : Module) (derives : List String → ClassDef → Bool × List String) :
    (seen : List String) → List Expr → Bool × List String
  | seen, [] => (false, seen)
  | seen, base :: rest =>
    if isTestCase base then (true, seen)
    else match baseClass? m base with
      | none => anyBase m derives seen rest
      | some parent =>
        match derives seen parent with
        | (true, seen) => (true, seen)
        | (false, seen) => anyBase m derives seen rest

/-- Whether a class derives from `TestCase` through at most `bound` classes, none of them seen
before; and the classes seen after that. -/
def derivesWithin (m : Module) : (bound : Nat) → List String → ClassDef → Bool × List String
  | 0, seen, _ => (false, seen)
  | bound + 1, seen, c =>
    if seen.contains c.name then (false, seen)
    else anyBase m (derivesWithin m bound) (c.name :: seen) c.bases

def derivesFromTestCase (m : Module) (c : ClassDef) : Bool :=
  (derivesWithin m ((m.children Module.root).length + 2) [] c).1

/-- Whether the name of a class should end in `Tests` and does not. -/
def isMisnamed (m : Module) (node : Nat) : Bool :=
  (m.class? node).any fun c =>
    !Text.endsWith c.name.toList "Tests".toList && hasTestMethods m node &&
      derivesFromTestCase m c

def findings (site : Site) : List Emission :=
  if site.file.isTest then
    ((site.home.children site.node).filter (isMisnamed site.home)).map fun child =>
      .about site.home child notEndingWithTests.code (site.home.lineOf child) []
  else []

def checker : Checker where
  name := "testclassname"
  description := ""
  messages := [notEndingWithTests]
  hooks := [.root]
  enter site lib := .emitting lib (findings site)

end TestClass

end CodingStandard
