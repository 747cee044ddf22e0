import CodingStandard.CommandLine

namespace CodingStandard

/-!
# Running the program

The outer layer: it copies the files that a run can look at into a file tree, runs the program on
it, prints the outcome and writes the configuration file if the run has changed it.
-/

namespace Program

def readFile (path : String) : IO FileTree := do
  let bytes ← IO.FS.readBinFile path
  return match String.fromUTF8? bytes with
    | some content => .text content.toList
    | none => .binary

/-- The file or directory at a path, down to `depth` levels of directories. -/
def readTree : (depth : Nat) → (path : String) → IO FileTree
  | 0, _ => return .empty
  | depth + 1, path => do
    let here ← IO.FS.realPath path
    if ← here.isDir then
      let entries ← here.readDir
      let children ← entries.toList.mapM fun entry => do
        return (entry.fileName, ← readTree depth entry.path.toString)
      return .directory children
    else readFile path

def depthLimit : Nat := 256

/-- Copies what is at a path into a tree, if there is anything. -/
def copyDeep (tree : FileTree) (path : Path) : IO FileTree := do
  try
    return tree.write path (← readTree depthLimit path.toString)
  catch _ => return tree

def copyFile (tree : FileTree) (path : Path) : IO FileTree := do
  try
    return tree.write path (← readFile path.toString)
  catch _ => return tree

/-- The names of the files around the checked ones that a run looks at. -/
def surroundings : List String :=
  CommandLine.projectConfigNames ++ [".ignore", ".gitignore", "__init__.py"]

def copySurroundings (tree : FileTree) (path : Path) : IO FileTree := do
  let files := path.ancestors.flatMap fun dir =>
    surroundings.map fun name => dir.join (.ofString name)
  files.foldlM copyFile tree

def readEnvironment : IO (List (String × String)) := do
  let names := ["TWISTLINT_CONFIG", "TWISTLINT_CONFIG_DIR", "HOME"]
  let values ← names.mapM fun name => do return (← IO.getEnv name).map (name, ·)
  return values.filterMap id

/-- The path that a run checks, and the configuration file that it is given. -/
def subject (environment : List (String × String)) (args : List String) : Path × Option Path :=
  match Request.ofArguments (environment.lookup "TWISTLINT_CONFIG") args with
  | .run given (.check options) => (options.path, given)
  | _ => (.ofString ".", none)

def importRoots (world : CommandLine.World) (given : Option Path) (path : Path) : List Path :=
  let base := Analyzer.baseOf world.tree (world.absolute path)
  let home := (world.tree.moduleAt (base.join ModuleName.packageFile)).root
  let configured :=
    match CommandLine.loadConfig world (CommandLine.configPath? world given path) with
    | .ok config => config.search.pythonPath
    | .error _ => []
  home :: configured.map base.join

/-- Copies the files that a run can look at. -/
def readWorld (args : List String) : IO CommandLine.World := do
  let directory := Path.ofString (← IO.currentDir).toString
  let environment ← readEnvironment
  let (path, given) := subject environment args
  let absolute := Path.ofNames (directory.join path).resolved
  let tree ← copyDeep .empty absolute
  let tree ← copySurroundings tree absolute
  let tree ← copyFile tree (directory.join (.ofString CommandLine.configName))
  let tree ← given.toList.foldlM (fun t file => copyFile t (directory.join file)) tree
  let world : CommandLine.World := ⟨tree, directory, environment⟩
  let user := (CommandLine.userDirectory? world).map (·.join (.ofString "config.toml"))
  let tree ← user.toList.foldlM (fun t file => copyFile t (directory.join file)) tree
  let roots := importRoots { world with tree := tree } given path
  let tree ← roots.foldlM (fun t dir => copyDeep t (.ofNames dir.resolved)) tree
  return { world with tree := tree }

def saveConfig (world : CommandLine.World) (outcome : CommandLine.Outcome) : IO Unit := do
  let path := world.absolute (.ofString CommandLine.configName)
  match outcome.tree.readText? path with
  | some content =>
    if world.tree.readText? path != some content then
      IO.FS.writeFile path.toString (String.ofList content)
  | none => pure ()

end Program

end CodingStandard

open CodingStandard in
def main (args : List String) : IO UInt32 := do
  let world ← Program.readWorld args
  let outcome := CommandLine.run world args
  Program.saveConfig world outcome
  IO.print outcome.output
  if let some message := outcome.error then
    IO.eprintln ("Error: " ++ message)
  return outcome.exit.toUInt32
