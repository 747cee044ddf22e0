import CodingStandard.Config
import CodingStandard.Discovery
import CodingStandard.Linter
import CodingStandard.Resolution.ImportPath

namespace CodingStandard

/-!
# Analysing a file tree

Every file is checked on its own. An error of a checker ends the check of its file and is
reported as a violation; files that are not texts are passed over.
-/

inductive AnalysisError where
  | invalidPattern (error : GlobError)
  | invalidCatalog (error : CatalogError)
  | missingRoot (root : Path)
  deriving DecidableEq, Repr

def AnalysisError.message : AnalysisError → String
  | invalidPattern error => "Invalid glob pattern: " ++ error.message
  | invalidCatalog error => "Invalid message catalog: " ++ error.message
  | missingRoot root => "File discovery failed: " ++ root.toString

structure Analyzer where
  parser : Parser
  root : Path
  /-- The directory that reported paths start from. -/
  base : Path
  linter : Linter
  exclusions : List Exclusion
  /-- The import roots that come before those of the files. -/
  importRoots : List Path
  respectGitignore : Bool

namespace Analyzer

def policyOf (config : Config) (catalog : Catalog) : Policy :=
  .ofFilter catalog config.messages config.severities

def exclusionsOf (patterns : List String) : Except AnalysisError (List Exclusion) :=
  match patterns.mapM Exclusion.parse with
  | .ok exclusions => .ok exclusions
  | .error e => .error (.invalidPattern e)

/-- The directory that reported paths start from: the root, or what is around a file. -/
def baseOf (tree : FileTree) (root : Path) : Path :=
  if tree.isFile root then root.parent?.getD root else root

/-- The analyzer of a configuration for an absolute root, with further exclusions and import
roots. Checkers that are turned off are left out. -/
def buildBy (parser : Parser) (tree : FileTree) (config : Config) (checkers : List Checker)
    (root : Path) (exclude : List String) (pythonPath : List Path) :
    Except AnalysisError Analyzer := do
  let exclusions ← exclusionsOf (exclude ++ config.search.exclude)
  let base := baseOf tree root
  match Linter.build (checkers.filter fun c => config.isEnabled c.name) (policyOf config) with
  | .ok linter =>
    return {
      parser, root, base, linter, exclusions
      importRoots := (pythonPath ++ config.search.pythonPath).map base.join
      respectGitignore := config.search.respectGitignore }
  | .error e => throw (.invalidCatalog e)

def build (tree : FileTree) (config : Config) (checkers : List Checker) (root : Path)
    (exclude : List String) (pythonPath : List Path) : Except AnalysisError Analyzer :=
  buildBy .python tree config checkers root exclude pythonPath

/-- The violation that reports an error of a checker, if it is wanted. -/
def abortion? (a : Analyzer) (file : SourceFile) (error : CheckError) : Option Violation :=
  let msg := Catalog.abortMessage
  if a.linter.policy.isEnabled msg.code then
    some {
      code := msg.code
      symbol := msg.symbol
      checker := Catalog.host
      severity := a.linter.policy.severity msg.code
      location := ⟨file.shownAs, 1, 0, 0, 0⟩
      message := msg.render [error.message]
      args := [error.message]
      node := none }
  else none

/-- The report on one file, and the library afterwards. -/
def checkText (a : Analyzer) (path : Path) (name : String) (content : Text) (lib : Library) :
    Report × Library :=
  let file := SourceFile.under a.base path content name
  let result := a.linter.check file (a.parser.moduleOf name path content) lib
  let failed := if result.error.isSome then 1 else 0
  (⟨result.violations ++ (result.error.bind (a.abortion? file)).toList, 1, failed⟩, result.library)

def checkFile (a : Analyzer) (tree : FileTree) (sofar : Report × Library)
    (file : Path × ModulePath) : Report × Library :=
  match tree.readText? file.1 with
  | some content =>
    let (report, lib) := a.checkText file.1 file.2.name content sofar.2
    (sofar.1.append report, lib)
  | none => sofar

/-- The files to check, each with its module. -/
def targets (a : Analyzer) (tree : FileTree) : Except AnalysisError (List (Path × ModulePath)) :=
  match tree.pythonFiles? a.respectGitignore a.exclusions a.base a.root with
  | some files => .ok (files.map fun path => (path, tree.moduleAt path))
  | none => .error (.missingRoot a.root)

def run (a : Analyzer) (tree : FileTree) : Except AnalysisError Report := do
  let files ← a.targets tree
  let imports := ImportPath.ofRootsBy a.parser (a.importRoots ++ files.map (·.2.root))
  let (report, _) := files.foldl (a.checkFile tree) (.empty, imports.library tree)
  return report.sort

end Analyzer

end CodingStandard
