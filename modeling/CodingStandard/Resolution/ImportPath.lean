import CodingStandard.FileTree
import CodingStandard.Resolution.Reexport

namespace CodingStandard

/-!
# Modules in a file tree

The name of a module follows from the packages around its file: the directories that hold an
initialisation file. The directory around the outermost package is an import root, and a module
is searched for in the import roots in their order.
-/

/-- The name of a module and the import root it lies in. -/
structure ModulePath where
  name : String
  root : Path
  deriving DecidableEq, Repr

namespace FileTree

def isPackage (tree : FileTree) (dir : Path) : Bool :=
  !dir.text.isEmpty && tree.isFile (dir.join ModuleName.packageFile)

/-- The names of the packages that enclose each other, the outermost first, and the directory
around them. The innermost of the directories comes first. -/
def packagesAround (tree : FileTree) (coding : NameCoding) :
    (dirs : List Path) → List String × Option Path
  | [] => ([], none)
  | dir :: rest =>
    if tree.isPackage dir then
      match dir.fileName? with
      | some name =>
        let (outer, root) := tree.packagesAround coding rest
        (outer ++ [coding.read name], root)
      | none => ([], some dir)
    else ([], some dir)

/-- The module that a file holds. The initialisation file of a package holds the package. -/
def moduleAtIn (tree : FileTree) (coding : NameCoding) (path : Path) : ModulePath :=
  let stem := (path.fileStem?.map coding.read).getD ""
  let (packages, root) := tree.packagesAround coding ((path.parent?.map Path.ancestors).getD [])
  let segments := packages ++ (if stem = "__init__" then [] else [stem])
  { name := if segments.isEmpty then stem else ModuleName.ofSegments segments
    root := (root.filter (!·.text.isEmpty)).getD (.ofString ".") }

def moduleAt (tree : FileTree) (path : Path) : ModulePath := tree.moduleAtIn .unicode path

/-- The module with a name in the first import root that has a file for it. -/
def findModule (tree : FileTree) (parser : Parser) (roots : List Path) (name : String) :
    Except ResolveError Module :=
  match (roots.flatMap fun root => ModuleName.candidates root name).find? tree.isFile with
  | none => .error (.notFound name)
  | some path =>
    match tree.readText? path with
    | some source => .ok (parser.moduleOf name path source)
    | none => .error (.unreadable path)

end FileTree

/-- The import roots, and the modules found in them so far. -/
structure ImportPath where
  parser : Parser
  roots : List Path
  loaded : List (String × Module)

namespace ImportPath

/-- No import roots yet. -/
def empty (parser : Parser) : ImportPath := ⟨parser, [], []⟩

/-- Adds an import root at the end, unless it is there. -/
def addRoot (imports : ImportPath) (root : Path) : ImportPath :=
  if imports.roots.any (·.same root) then imports
  else { imports with roots := imports.roots ++ [root] }

def ofRootsBy (parser : Parser) (roots : List Path) : ImportPath :=
  roots.foldl addRoot (empty parser)

def ofRoots (roots : List Path) : ImportPath := ofRootsBy .python roots

/-- The library of the modules in a tree. -/
def library (imports : ImportPath) (tree : FileTree) : Library where
  loaded := imports.loaded
  search := tree.findModule imports.parser imports.roots

def resolve (imports : ImportPath) (tree : FileTree) (name : String) :
    Except ResolveError Module × ImportPath :=
  let (result, lib) := (imports.library tree).resolve name
  (result, { imports with loaded := lib.loaded })

def lookupClass (imports : ImportPath) (tree : FileTree) (moduleName name : String) :
    Except ResolveError (Option ResolvedClass) × ImportPath :=
  let (result, lib) := (imports.library tree).lookupClass moduleName name
  (result, { imports with loaded := lib.loaded })

end ImportPath

end CodingStandard
