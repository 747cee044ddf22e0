import CodingStandard.Path

namespace CodingStandard

/-!
# File trees

A file system as a value: files that hold text, files that hold something else, and directories.
Absolute paths are looked up from the top of a tree.
-/

inductive FileTree where
  | text (content : Text)
  /-- A file that is not a text. -/
  | binary
  | directory (entries : List (String × FileTree))
  deriving Repr

namespace FileTree

def empty : FileTree := directory []

def entries? : FileTree → Option (List (String × FileTree))
  | directory entries => some entries
  | _ => none

/-- Follows the components of a path from a node. `around` are the directories around the node,
the innermost first; the top of a tree is its own parent. -/
def follow? : (around : List FileTree) → FileTree → List Component → Option FileTree
  | _, node, [] => some node
  | around, directory entries, .name name :: rest =>
    match entries.lookup (String.ofList name) with
    | some node => follow? (directory entries :: around) node rest
    | none => none
  | [], directory entries, .parent :: rest => follow? [] (directory entries) rest
  | up :: around, directory _, .parent :: rest => follow? around up rest
  | around, directory entries, _ :: rest => follow? around (directory entries) rest
  | _, _, _ :: _ => none

def get? (tree : FileTree) (path : Path) : Option FileTree := follow? [] tree path.components

/-- Whether a path names a file. A path that ends in a slash or a dot names directories only. -/
def isFile (tree : FileTree) (path : Path) : Bool :=
  match tree.get? path with
  | some (text _) => !path.endsAsDirectory
  | some binary => !path.endsAsDirectory
  | _ => false

def isDirectory (tree : FileTree) (path : Path) : Bool :=
  match tree.get? path with
  | some (directory _) => true
  | _ => false

def readText? (tree : FileTree) (path : Path) : Option Text :=
  match tree.get? path with
  | some (text content) => if path.endsAsDirectory then none else some content
  | _ => none

/-- The entries with one of them replaced, added or left out. -/
def setEntry (name : String) (node : Option FileTree) :
    List (String × FileTree) → List (String × FileTree)
  | [] => (node.map (name, ·)).toList
  | (other, kept) :: rest =>
    if other = name then (node.map (name, ·)).toList ++ rest
    else (other, kept) :: setEntry name node rest

/-- Changes what names lead to. Directories that are missing on the way are made. -/
def change (f : Option FileTree → Option FileTree) :
    (names : List String) → Option FileTree → Option FileTree
  | [], node => f node
  | name :: names, node =>
    let entries := (node.bind entries?).getD []
    some (directory (setEntry name (change f names (entries.lookup name)) entries))

/-- The tree with a file at a path, in place of what is there. -/
def write (tree : FileTree) (path : Path) (file : FileTree) : FileTree :=
  (change (fun _ => some file) path.resolved (some tree)).getD tree

/-- The tree with a directory at a path; one that is there already stays. -/
def makeDirectory (tree : FileTree) (path : Path) : FileTree :=
  if tree.isDirectory path then tree else tree.write path empty

def remove (tree : FileTree) (path : Path) : FileTree :=
  if (tree.get? path).isSome then (change (fun _ => none) path.resolved (some tree)).getD tree
  else tree

end FileTree

end CodingStandard
