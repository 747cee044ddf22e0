import CodingStandard.Checker
import CodingStandard.Text.Letter

namespace CodingStandard

/-!
# Names of methods and test modules

Methods are written in camel case. Underscores stand in reserved names, before a private name,
and in families such as `ftp_USER` and `ftp_PASS` whose members share the text before the
underscore. In test modules, test methods are called `test_...`.
-/

namespace Names

/-- A test module with test cases whose name does not start with `test_`. -/
def testModuleName : MessageDef where
  code := "W9301"
  symbol := "testmodule-not-beginning-with-test"
  summary := "Test modules should begin with test_"
  detail := "Used when a test module containing a TestCase does not begin with test_."
  defaultEnabled := true

def invalidMethodName : MessageDef where
  code := "C9302"
  symbol := "invalid-method-name"
  summary := "Method name is invalid"
  detail := "Used when a method has invalid name."
  defaultEnabled := true

def invalidTestMethodName : MessageDef where
  code := "C9303"
  symbol := "invalid-test-method-name"
  summary := "Test method name is invalid"
  detail := "Used when a test method has invalid name."
  defaultEnabled := true

/-- The longest text that two texts start with. -/
def commonStart : Text → Text → Text
  | a :: s, b :: t => if a = b then a :: commonStart s t else []
  | _, _ => []

/-- Whether two names start with the same text, underscores alone not counting. -/
def related (name sibling : Text) : Bool := (commonStart name sibling).any (· != '_')

def dropUnderscore : Text → Text
  | '_' :: t => t
  | t => t

/-- What the rules say of a name on its own. -/
inductive Standing where
  | good
  | bad
  /-- Good if a sibling starts with the same text. -/
  | family
  deriving DecidableEq, Repr

/-- The standing of a name without its leading underscores. -/
def coreStanding (core : Text) : Standing :=
  if core.getLast? = some '_' then .bad
  else if core.contains '_' then .family
  else .good

def standing (name : Text) : Standing :=
  if name.head?.any Text.isUpper then .bad
  else if Text.startsWith name "___".toList || Text.endsWith name "___".toList then .bad
  else match Text.after? "__".toList name with
    | some rest =>
      if Text.endsWith rest "__".toList then .good
      else if Text.endsWith rest ['_'] then .bad
      else coreStanding (dropUnderscore rest)
    | none => coreStanding (dropUnderscore name)

/-- Whether a method may have a name, given the names of the other methods of its class. -/
def isValidMethodName (name : String) (siblings : List String) : Bool :=
  match standing name.toList with
  | .good => true
  | .bad => false
  | .family => siblings.any fun sibling => related name.toList sibling.toList

/-- Whether a text starts with the head of a class that derives from a `TestCase`, all of its
bases standing on one line. -/
def startsWithTestCase (t : Text) : Bool :=
  match Text.after? "class".toList t with
  | none => false
  | some rest =>
    let afterBlank := rest.dropWhile Text.isBlank
    let afterName := afterBlank.dropWhile Char.isAlphanum
    match afterName.dropWhile Text.isBlank with
    | '(' :: bases =>
      rest.head?.any Text.isBlank && afterBlank.head?.any Char.isAlphanum &&
        Text.occursIn "TestCase)".toList (bases.takeWhile (· != '\n'))
    | _ => false

def hasTestCase : Text → Bool
  | [] => false
  | c :: t => startsWithTestCase (c :: t) || hasTestCase t

def ofModule (site : Site) : List Emission :=
  if site.file.isTest && hasTestCase site.home.source &&
      !Text.startsWith site.home.baseName.toList "test_".toList then
    [.about site.home site.node testModuleName.code 1 []]
  else []

def siblings (m : Module) (node : Nat) : List String :=
  ((m.methods (m.scope node)).filter (· != node)).filterMap m.name?

def ofMethod (site : Site) (name : String) : List Emission :=
  let line := site.home.lineOf site.node
  if site.file.isTest && Text.startsWith name.toList "test".toList then
    if Text.startsWith name.toList "test_".toList then []
    else [.about site.home site.node invalidTestMethodName.code line []]
  else if isValidMethodName name (siblings site.home site.node) then []
  else [.about site.home site.node invalidMethodName.code line []]

def findings (site : Site) : List Emission :=
  match site.home.function? site.node with
  | none => ofModule site
  | some f => if site.home.isMethod site.node then ofMethod site f.name else []

def checker : Checker where
  name := "names"
  description := "Checks method names and test module names"
  messages := [testModuleName, invalidMethodName, invalidTestMethodName]
  hooks := [.root, .functionDef]
  enter site lib := .emitting lib (findings site)

end Names

end CodingStandard
