import CodingStandard.FileTree
import CodingStandard.Pattern.Glob

namespace CodingStandard

/-!
# Ignore files

A directory may hold a list of patterns for the files below it that are to be passed over. The
last pattern that matches decides, and a pattern after `!` brings a file back. Lists of inner
directories are asked before those of outer ones, and `.ignore` before `.gitignore`, which comes
before the list that a repository keeps for itself.
-/

/-- A line of an ignore file. -/
structure IgnoreRule where
  glob : Glob
  /-- The rule brings files back. -/
  keeps : Bool
  directoriesOnly : Bool
  deriving Repr

namespace IgnoreRule

/-- Takes a mark off the front of a line: whether it was there, and what remains. -/
def strip (mark : Char) (line : Text) : Bool × Text :=
  match Text.after? [mark] line with
  | some rest => (true, rest)
  | none => (false, line)

def stripFinalSlash (line : Text) : Bool × Text :=
  match Text.before? ['/'] line with
  | some rest => (true, rest)
  | none => (false, line)

/-- The pattern for paths below the directory. One without slash holds at any depth, and one that
ends in two stars holds inside a directory and not for itself. -/
def pathPattern (anchored : Bool) (pattern : Text) : Text :=
  let full := if anchored || pattern.contains '/' || pattern = ['*', '*'] then pattern
    else "**/".toList ++ pattern
  if Text.endsWith full "/**".toList then full ++ "/*".toList else full

/-- The rule of a pattern, unless it is empty or not well formed. -/
def ofPattern? (keeps anchored : Bool) (line : Text) : Option IgnoreRule :=
  let (directoriesOnly, pattern) := stripFinalSlash line
  if pattern.isEmpty then none
  else match Glob.parse (pathPattern anchored pattern) with
    | .ok glob => some ⟨glob, keeps, directoriesOnly⟩
    | .error _ => none

/-- Reads a line. Comments and blank lines are no rules, and a backslash before `!` or the mark of
a comment takes away its meaning. -/
def parse? (line : Text) : Option IgnoreRule :=
  if Text.startsWith line ['#'] then none
  else
    let line := if Text.endsWith line "\\ ".toList then line else Text.trimEnd line
    match line with
    | '\\' :: '!' :: rest => ofPattern? false false ('!' :: rest)
    | '\\' :: '#' :: rest => ofPattern? false false ('#' :: rest)
    | _ =>
      let (keeps, line) := strip '!' line
      let (anchored, line) := strip '/' line
      ofPattern? keeps anchored line

def covers (rule : IgnoreRule) (path : Text) (isDirectory : Bool) : Bool :=
  (!rule.directoriesOnly || isDirectory) && rule.glob.isPathMatch path

/-- What rules say about a path: whether it is passed over, or nothing. -/
def verdict? (rules : List IgnoreRule) (path : Text) (isDirectory : Bool) : Option Bool :=
  (rules.reverse.find? (·.covers path isDirectory)).map fun rule => !rule.keeps

end IgnoreRule

/-- The rules of a directory that lies `depth` names below the root. -/
structure IgnoreScope where
  depth : Nat
  own : List IgnoreRule
  git : List IgnoreRule
  repository : List IgnoreRule
  deriving Repr

namespace IgnoreScope

/-- The rules that the text of a file spells. Marks of the byte order at its start are dropped. -/
def rulesOf (content : Text) : List IgnoreRule :=
  match Text.lines content with
  | [] => []
  | first :: rest =>
    (first.dropWhile (·.toNat == 0xFEFF) :: rest).filterMap IgnoreRule.parse?

def rulesIn (entries : List (String × FileTree)) (path : String) : List IgnoreRule :=
  ((FileTree.directory entries).readText? (.ofString path)).elim [] rulesOf

def ofEntries (respectGitignore : Bool) (depth : Nat) (entries : List (String × FileTree)) :
    IgnoreScope :=
  let gitRules := fun path => if respectGitignore then rulesIn entries path else []
  ⟨depth, rulesIn entries ".ignore", gitRules ".gitignore", gitRules ".git/info/exclude"⟩

/-- Whether the file or directory with these names is passed over. The innermost of the scopes
comes first. -/
def ignores (scopes : List IgnoreScope) (names : List String) (isDirectory : Bool) : Bool :=
  let verdict? (rules : IgnoreScope → List IgnoreRule) : Option Bool :=
    scopes.findSome? fun scope =>
      IgnoreRule.verdict? (rules scope)
        (Text.join ['/'] ((names.drop scope.depth).map String.toList)) isDirectory
  ((verdict? IgnoreScope.own).or ((verdict? IgnoreScope.git).or
    (verdict? IgnoreScope.repository))).getD false

end IgnoreScope

end CodingStandard
