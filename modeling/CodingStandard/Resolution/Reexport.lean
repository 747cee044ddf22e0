import CodingStandard.Resolution.Library

namespace CodingStandard

/-!
# Following imports to a class

A module may bind a name by importing it from another module, which may do so in turn.
`lookupClass` follows such a chain to the class at its end.
-/

namespace Module

/-- Whether the module is the initialisation file of a package. -/
def isPackage (m : Module) : Bool := m.path.fileName? == ModuleName.packageFile.fileName?

/-- The segments of the package that relative imports of a module start from. -/
def package (m : Module) : List String :=
  if m.isPackage then ModuleName.segments m.name else (ModuleName.segments m.name).dropLast

/-- Climbs out of packages; `none` if there are too few of them. -/
def climb? : (levels : Nat) → List String → Option (List String)
  | 0, package => some package
  | levels + 1, package => if package.isEmpty then none else climb? levels package.dropLast

/-- The full name of the module that a `from` import names. One dot stands for the module's own
package, and each further dot for the package around. -/
def importSource? (m : Module) (i : Import) : Option String :=
  if i.level = 0 then i.source
  else do
    let package ← climb? (i.level - 1) m.package
    let full := package ++ (i.source.map ModuleName.segments).getD []
    if full.isEmpty then none else some (ModuleName.ofSegments full)

/-- What a name means at the top level of a module to someone who looks for a class. -/
inductive Export where
  | definition (node : Nat)
  | reexport (source name : String)
  | nothing
  deriving DecidableEq, Repr

/-- What a name means at the top level: its first binding there decides. -/
def exported (m : Module) (name : String) : Export :=
  match m.topLevelBinding? name with
  | none => .nothing
  | some binding =>
    match binding.kind, m.kind? binding.node with
    | .classDef, _ => .definition binding.node
    | .imports, some (.imports i) =>
      if i.isFrom then
        match m.importSource? i, i.binding? name with
        | some source, some imported => .reexport source imported.name
        | _, _ => .nothing
      else .nothing
    | _, _ => .nothing

end Module

structure ResolvedClass where
  home : Module
  node : Nat
  deriving Repr

/-- Whether the class defines a method directly in its body. -/
def ResolvedClass.defines (c : ResolvedClass) (method : String) : Bool :=
  c.home.definesDirectly c.node method

/-- The answer to the search for a class, and the library after it. -/
abbrev ClassAnswer := Except ResolveError (Option ResolvedClass) × Library

/-- A chain of imports that is being followed: the name it has led to, and those it has passed. -/
structure Trail where
  library : Library
  visited : List (String × String)
  moduleName : String
  name : String

namespace Trail

/-- Takes one step: the search is over, or it goes on at another name. -/
def step (t : Trail) : ClassAnswer ⊕ Trail :=
  if t.visited.contains (t.moduleName, t.name) then
    .inl (.error (.cycle t.moduleName t.name), t.library)
  else
    match t.library.resolve t.moduleName with
    | (.error e, lib) => .inl (.error e, lib)
    | (.ok m, lib) =>
      match m.exported t.name with
      | .definition node => .inl (.ok (some ⟨m, node⟩), lib)
      | .nothing => .inl (.ok none, lib)
      | .reexport source imported =>
        .inr ⟨lib, (t.moduleName, t.name) :: t.visited, source, imported⟩

/-- Follows a chain to its end. No bound is set beforehand: a chain through finitely many modules
ends, or comes back to a name that it has passed. -/
def follow (t : Trail) : ClassAnswer :=
  match t.step with
  | .inl answer => answer
  | .inr next => next |>.follow
partial_fixpoint

end Trail

namespace Library

def lookupClass (lib : Library) (moduleName name : String) : ClassAnswer :=
  Trail.follow ⟨lib, [], moduleName, name⟩

end Library

end CodingStandard
