import CodingStandard.Model.Source

namespace CodingStandard

/-!
# Libraries of modules

A library finds modules by their dotted names. It remembers every module that it has found, so a
name means the same module from then on; a name that was not found is searched for again.
-/

/-- Why a module cannot be had. -/
inductive ResolveError where
  | notFound (name : String)
  /-- Following the imports of a name led back to it. -/
  | cycle (moduleName name : String)
  /-- The file is not a text. -/
  | unreadable (path : Path)
  deriving DecidableEq, Repr

def ResolveError.message : ResolveError → String
  | notFound name => "module not found: " ++ name
  | cycle moduleName name => "import cycle while resolving " ++ name ++ " in " ++ moduleName
  | unreadable path =>
    "failed to read " ++ path.toString ++ ": stream did not contain valid UTF-8"

/-- The modules found so far, and the search for others. -/
structure Library where
  loaded : List (String × Module)
  search : String → Except ResolveError Module

namespace Library

def ofModules (modules : List (String × Module)) : Library :=
  ⟨modules, fun name => .error (.notFound name)⟩

instance : Inhabited Library := ⟨ofModules []⟩

/-- The library with one more module, which hides another one of its name. -/
def insert (lib : Library) (name : String) (m : Module) : Library :=
  { lib with loaded := (name, m) :: lib.loaded }

def resolve (lib : Library) (name : String) : Except ResolveError Module × Library :=
  match lib.loaded.lookup name with
  | some m => (.ok m, lib)
  | none =>
    match lib.search name with
    | .ok m => (.ok m, lib.insert name m)
    | .error e => (.error e, lib)

end Library

end CodingStandard
