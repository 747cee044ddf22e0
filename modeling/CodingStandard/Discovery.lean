import CodingStandard.Discovery.IgnoreFile

namespace CodingStandard

/-!
# Finding the files to check

Below a directory, the Python files are found that neither an ignore file nor an exclusion leaves
out. A file that is named itself is always taken.
-/

structure Exclusion where
  glob : Glob
  /-- The component that leaves out every path it occurs in. -/
  component : Option Text
  deriving Repr

namespace Exclusion

/-- The component that a pattern stands for: what remains without the stars for directories,
unless it is empty or holds another star. -/
def componentOf (pattern : Text) : Option Text :=
  let bare := Text.replace "/**".toList [] (Text.replace "**/".toList [] pattern)
  if bare.isEmpty || bare.contains '*' then none else some bare

def parse (pattern : String) : Except GlobError Exclusion := do
  return ⟨← Glob.parse pattern.toList, componentOf pattern.toList⟩

/-- Whether a path as it is written is left out. -/
def covers (exclusion : Exclusion) (path : Path) : Bool :=
  exclusion.glob.isMatch path.text ||
    match exclusion.component with
    | some component => path.components.any fun c => c.text == component
    | none => false

/-- Whether a path is left out, as it is or as seen from a base directory. -/
def excludes (exclusions : List Exclusion) (base path : Path) : Bool :=
  exclusions.any fun e => e.covers path || e.covers (path.relativeTo base)

end Exclusion

namespace FileTree

/-- The scopes of the directories on the way to names, the innermost first. `around` are those of
the directories further out. -/
def scopesAlong (respectGitignore : Bool) (around : List IgnoreScope) :
    (depth : Nat) → FileTree → (names : List String) → List IgnoreScope
  | depth, directory entries, name :: names =>
    let scopes := .ofEntries respectGitignore depth entries :: around
    match entries.lookup name with
    | some node => scopesAlong respectGitignore scopes (depth + 1) node names
    | none => scopes
  | _, _, _ => around

mutual

/-- The files at a node with a path and names that are not ignored. -/
def walk (respectGitignore : Bool) (scopes : List IgnoreScope) (path : Path)
    (names : List String) : FileTree → List Path
  | directory entries =>
    walkAll respectGitignore
      (.ofEntries respectGitignore names.length entries :: scopes) path names entries
  | _ => [path]

def walkAll (respectGitignore : Bool) (scopes : List IgnoreScope) (path : Path)
    (names : List String) : List (String × FileTree) → List Path
  | [] => []
  | (name, node) :: rest =>
    (if IgnoreScope.ignores scopes (names ++ [name]) node.entries?.isSome then []
     else walk respectGitignore scopes (path.join (.ofString name)) (names ++ [name]) node) ++
      walkAll respectGitignore scopes path names rest

end

def filesBelow (tree : FileTree) (respectGitignore : Bool) (root : Path)
    (entries : List (String × FileTree)) : List Path :=
  walk respectGitignore (scopesAlong respectGitignore [] 0 tree root.resolved) root root.resolved
    (directory entries)

def isPython (path : Path) : Bool := path.extension? == some "py".toList

/-- The files to check at a root, in the order of their paths, or nothing if there is no root. -/
def pythonFiles? (tree : FileTree) (respectGitignore : Bool) (exclusions : List Exclusion)
    (base root : Path) : Option (List Path) :=
  if tree.isFile root then some [root]
  else match tree.get? root with
    | some (directory entries) =>
      let files := (tree.filesBelow respectGitignore root entries).filter fun path =>
        isPython path && !Exclusion.excludes exclusions base path
      some (files.mergeSort fun a b => (Path.order a b).isLE)
    | _ => none

end FileTree

end CodingStandard
