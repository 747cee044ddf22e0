import CodingStandard.Checker

namespace CodingStandard

/-!
# Methods that an interface documents

A class decorated with `@implementer(IFace)` need not document the methods that `IFace` defines.
The interface is a class of the same module, or one that the module imports.
-/

namespace Interface

/-- Where a reference to an interface leads. -/
inductive Target where
  /-- A class of the module itself. -/
  | here (node : Nat)
  /-- A class of another module. -/
  | elsewhere (moduleName name : String)
  deriving DecidableEq, Repr

/-- The full dotted name of what an import lets a reference mean. -/
def importedName (m : Module) (i : Import) (imported : ImportName) (head : String)
    (rest : List String) : Except CheckError String :=
  if i.isFrom then
    match m.importSource? i with
    | some source => .ok (ModuleName.ofSegments (source :: imported.name :: rest))
    | none => .error (.lookup ("source module of " ++ head ++ " in " ++ m.name))
  else if imported.asName.isSome then .ok (ModuleName.ofSegments (imported.name :: rest))
  else .ok (ModuleName.ofSegments (head :: rest))

def targetOf (interface : String) (full : String) : Except CheckError Target :=
  match ModuleName.splitLast? full with
  | some (moduleName, name) => .ok (.elsewhere moduleName name)
  | none => .error (.structural (interface ++ " does not name a class in a module"))

/-- Where a reference leads: the first binding of its first segment decides. -/
def locate (m : Module) (interface : String) : Except CheckError Target :=
  let segments := ModuleName.segments interface
  let head := segments.headD ""
  let missing := CheckError.lookup (head ++ " in " ++ m.name)
  match m.topLevelBinding? head with
  | none => .error missing
  | some binding =>
    match binding.kind, m.kind? binding.node with
    | .imports, some (.imports i) =>
      match i.binding? head with
      | some imported =>
        (importedName m i imported head segments.tail).bind (targetOf interface)
      | none => .error missing
    | .classDef, _ =>
      if segments.length = 1 then .ok (.here binding.node)
      else .error (.structural (interface ++ " is neither a class nor an import in " ++ m.name))
    | _, _ =>
      .error (.structural (interface ++ " is neither a class nor an import in " ++ m.name))

/-- Whether an interface defines a method, and the library after asking. -/
def defines (m : Module) (lib : Library) (interface method : String) :
    Except CheckError Bool × Library :=
  match locate m interface with
  | .error e => (.error e, lib)
  | .ok (.here node) => (.ok (m.definesDirectly node method), lib)
  | .ok (.elsewhere moduleName name) =>
    match lib.lookupClass moduleName name with
    | (.ok (some c), lib) => (.ok (c.defines method), lib)
    | (.ok none, lib) =>
      (.error (.structural ("interface " ++ name ++ " is not a class in " ++ moduleName)), lib)
    | (.error (.notFound missing), lib) =>
      (.error (.lookup ("module " ++ missing ++ " for " ++ interface)), lib)
    | (.error e, lib) => (.error (.resolve e), lib)

/-- Whether one of several interfaces defines a method. One whose imports go in circles defines
nothing; another failure ends the search. -/
def anyDefines (m : Module) (method : String) : Library → List String →
    Except CheckError Bool × Library
  | lib, [] => (.ok false, lib)
  | lib, interface :: rest =>
    match defines m lib interface method with
    | (.ok true, lib) => (.ok true, lib)
    | (.ok false, lib) => anyDefines m method lib rest
    | (.error (.resolve (.cycle _ _)), lib) => anyDefines m method lib rest
    | (.error e, lib) => (.error e, lib)

/-- Whether a decorator names interfaces. -/
def isImplementer (d : Decorator) : Bool :=
  d.isCall && (d.name == "implementer" || Text.endsWith d.name.toList ".implementer".toList)

def implemented (c : ClassDef) : List String :=
  (c.decorators.filter isImplementer).flatMap fun d => d.args.map Expr.label

/-- Whether an interface of its class documents a method. -/
def documents (m : Module) (lib : Library) (node : Nat) : Except CheckError Bool × Library :=
  if m.isMethod node then
    match m.name? node, (m.enclosingClass? node).bind m.class? with
    | some method, some c => anyDefines m method lib (implemented c)
    | _, _ => (.ok false, lib)
  else (.ok false, lib)

end Interface

end CodingStandard
