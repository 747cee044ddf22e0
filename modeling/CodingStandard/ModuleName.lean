import CodingStandard.Path.Coding

namespace CodingStandard

/-!
# Dotted module names

A module is known by a dotted name such as `pkg.test.test_page`. Its last segment is its base
name, and the segments before it are the packages that enclose it.
-/

namespace ModuleName

def segments (name : String) : List String :=
  (Text.splitOn '.' name.toList).map String.ofList

def ofSegments (parts : List String) : String :=
  String.ofList (Text.join ['.'] (parts.map String.toList))

def baseName (name : String) : String := (segments name).getLast?.getD name

/-- Everything before the last dot, and what follows it. -/
def splitLast? (name : String) : Option (String × String) :=
  (Text.splitLast? '.' name.toList).map fun (front, back) =>
    (String.ofList front, String.ofList back)

/-- Whether an enclosing package is called `test` or `tests`. -/
def inTestPackage (name : String) : Bool :=
  match splitLast? name with
  | some (package, _) => (segments package).any fun s => s == "test" || s == "tests"
  | none => false

/-- A test module lives in a test package and its base name starts with `test`. -/
def isTest (name : String) : Bool :=
  inTestPackage name && Text.startsWith (baseName name).toList "test".toList

/-- Whether the header of a module must name its test module. Modules of test packages, private
modules and modules called `test_...` are exempt. -/
def requiresTestReference (name : String) : Bool :=
  !inTestPackage name && !Text.startsWith (baseName name).toList "test_".toList &&
    !Text.startsWith (baseName name).toList ['_']

/-- The file that makes a directory a package. -/
def packageFile : Path := .ofString "__init__.py"

/-- The two files that may hold a module under an import root: a module file, and the
initialisation file of a package. -/
def candidatesIn (coding : NameCoding) (root : Path) (name : String) : List Path :=
  let base := (segments name).foldl (fun dir segment => dir.join (coding.write segment)) root
  [base.withExtension "py".toList, base.join packageFile]

def candidates (root : Path) (name : String) : List Path := candidatesIn .unicode root name

/-- The path of a module relative to its import root, as if it were a plain module. -/
def defaultPath (name : String) : Path :=
  .ofString (String.ofList (Text.replace ['.'] ['/'] name.toList) ++ ".py")

end ModuleName

end CodingStandard
