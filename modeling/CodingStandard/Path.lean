import CodingStandard.Text

namespace CodingStandard

/-!
# Paths

A path is a text whose names are divided by slashes. Two paths are compared name by name, so
doubled slashes, a final slash and `.` inside a path do not count, while the text is kept as it
was written.
-/

/-- A path as it is written. -/
structure Path where
  text : Text
  deriving DecidableEq, Repr

inductive Component where
  /-- The slash that an absolute path starts with. -/
  | root
  /-- A dot at the start of a relative path. -/
  | current
  | parent
  | name (text : Text)
  deriving DecidableEq, Repr

namespace Component

/-- The sort key: the slash, a dot, two dots, and then the names by their characters. -/
def key : Component → List Nat
  | root => [0]
  | current => [1]
  | parent => [2]
  | name text => 3 :: text.map Char.toNat

def text : Component → Text
  | root => ['/']
  | current => ['.']
  | parent => ['.', '.']
  | name text => text

end Component

namespace Path

def ofString (s : String) : Path := ⟨s.toList⟩

def toString (path : Path) : String := String.ofList path.text

def isAbsolute (path : Path) : Bool := path.text.head? == some '/'

/-- A component and the positions in the text at which it starts and stops. -/
structure Step where
  component : Component
  start : Nat
  stop : Nat
  deriving Repr

/-- The step that a part between two slashes is, if it is one. -/
def step? (start : Nat) (part : Text) : Option Step :=
  let stop := start + part.length
  if part = [] then none
  else if part = ['.'] then (if start = 0 then some ⟨.current, start, stop⟩ else none)
  else if part = ['.', '.'] then some ⟨.parent, start, stop⟩
  else some ⟨.name part, start, stop⟩

/-- The steps of the parts between slashes, the first of which starts at `start`. -/
def stepsFrom (start : Nat) : List Text → List Step
  | [] => []
  | part :: rest => (step? start part).toList ++ stepsFrom (start + part.length + 1) rest

def steps (path : Path) : List Step :=
  (if path.isAbsolute then [⟨.root, 0, 1⟩] else []) ++ stepsFrom 0 (Text.splitOn '/' path.text)

def components (path : Path) : List Component := path.steps.map (·.component)

def same (a b : Path) : Bool := a.components == b.components

/-- The order of paths: component by component. -/
def order (a b : Path) : Ordering :=
  List.compareLex (List.compareLex compare) (a.components.map Component.key)
    (b.components.map Component.key)

def fileName? (path : Path) : Option Text :=
  match path.components.getLast? with
  | some (.name text) => some text
  | _ => none

/-- Cuts a file name at its last dot. A name without a dot, or with none but a leading one, has
no extension. -/
def cutExtension (name : Text) : Text × Option Text :=
  match Text.splitLast? '.' name with
  | some ([], _) => (name, none)
  | some (stem, extension) => (stem, some extension)
  | none => (name, none)

def fileStem? (path : Path) : Option Text := path.fileName?.map fun name => (cutExtension name).1

def extension? (path : Path) : Option Text := path.fileName?.bind fun name => (cutExtension name).2

/-- The path without its last component. The root and the empty path have none. -/
def parent? (path : Path) : Option Path :=
  match path.steps.reverse with
  | [] => none
  | last :: before =>
    if last.component = .root then none
    else some ⟨path.text.take ((before.head?.map (·.stop)).getD 0)⟩

def ancestorsWithin : (bound : Nat) → Path → List Path
  | 0, path => [path]
  | bound + 1, path =>
    match path.parent? with
    | some parent => path :: ancestorsWithin bound parent
    | none => [path]

/-- A path and the paths around it, the nearest first. Each has a component less. -/
def ancestors (path : Path) : List Path := ancestorsWithin path.steps.length path

/-- Whether the path ends in a slash or in a dot as its last part, so that it cannot name a file. -/
def endsAsDirectory (path : Path) : Bool :=
  match (Text.splitOn '/' path.text).getLast? with
  | some part => part = [] || part = ['.']
  | none => true

/-- The names that lead to a path from the root, each two dots undoing the name before them. -/
def resolved (path : Path) : List String :=
  path.components.foldl (fun names component =>
    match component with
    | .name name => names ++ [String.ofList name]
    | .parent => names.dropLast
    | _ => names) []

def ofNames (names : List String) : Path :=
  ⟨'/' :: Text.join ['/'] (names.map String.toList)⟩

/-- The path `other` seen from a directory. An absolute path stays itself, and the empty path
leaves a final slash. -/
def join (dir : Path) (other : Path) : Path :=
  if other.isAbsolute then other
  else if dir.text = [] ∨ dir.text.getLast? = some '/' then ⟨dir.text ++ other.text⟩
  else ⟨dir.text ++ '/' :: other.text⟩

/-- The path with another extension of its file name; a path without file name stays itself. -/
def withExtension (path : Path) (extension : Text) : Path :=
  match path.steps.getLast? with
  | some ⟨.name name, start, _⟩ =>
    ⟨path.text.take (start + (cutExtension name).1.length) ++ '.' :: extension⟩
  | _ => path

/-- The steps that remain after the components of a directory. -/
def stepsAfter? : List Component → List Step → Option (List Step)
  | [], steps => some steps
  | _ :: _, [] => none
  | c :: cs, step :: steps => if step.component = c then stepsAfter? cs steps else none

/-- The path as seen from a directory that it lies in. -/
def relativeTo? (path dir : Path) : Option Path :=
  match stepsAfter? dir.components path.steps with
  | none => none
  | some [] => some ⟨[]⟩
  | some (first :: rest) =>
    let stop := ((first :: rest).getLast?.map (·.stop)).getD first.stop
    some ⟨(path.text.take stop).drop first.start⟩

/-- The path as seen from a directory, or the path itself if it does not lie there. -/
def relativeTo (path dir : Path) : Path := (path.relativeTo? dir).getD path

end Path

end CodingStandard
