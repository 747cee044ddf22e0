import CodingStandard.Model.Lowering
import CodingStandard.ModuleName

namespace CodingStandard

/-!
# Modules

A module keeps its nodes in one array. A node is known by its position, the module itself being
at position zero; parents and children are positions. `Outline.number` lays out an outline in
the order in which its nodes start, so a node comes before everything inside it.
-/

namespace Outline

mutual

def size : Outline → Nat
  | node _ _ children => 1 + sizeAll children

def sizeAll : List Outline → Nat
  | [] => 0
  | o :: rest => o.size + sizeAll rest

end

/-- The positions of several outlines that are laid out one after the other from `next` on. -/
def positions (next : Nat) : List Outline → List Nat
  | [] => []
  | o :: rest => next :: positions (next + o.size) rest

mutual

/-- Lays out an outline from position `next` on. -/
def number (parent : Option Nat) (next : Nat) : Outline → List Node
  | node kind place children =>
    ⟨kind, place, parent, positions (next + 1) children⟩ ::
      numberAll (some next) (next + 1) children

def numberAll (parent : Option Nat) (next : Nat) : List Outline → List Node
  | [] => []
  | o :: rest => o.number parent next ++ numberAll parent (next + o.size) rest

end

end Outline

structure Module where
  name : String
  path : Path
  source : Text
  syntaxErrors : Bool
  nodes : Array Node
  deriving Repr

namespace Module

def ofTree (name : String) (path : Path) (source : Text) (tree : Tree) : Module :=
  ⟨name, path, source, false, (tree.outline.number none 0).toArray⟩

def root : Nat := 0

def baseName (m : Module) : String := ModuleName.baseName m.name

/-- A line of the source, numbered from one. -/
def line? (m : Module) (number : Nat) : Option Text :=
  if number = 0 then none else (Text.lines m.source)[number - 1]?

def kind? (m : Module) (id : Nat) : Option NodeKind := m.nodes[id]?.map (·.kind)

def isKind (m : Module) (p : NodeKind → Bool) (id : Nat) : Bool := (m.kind? id).any p

def place (m : Module) (id : Nat) : Place := (m.nodes[id]?.map (·.place)).getD ⟨0, 0⟩

def lineOf (m : Module) (id : Nat) : Nat := (m.place id).line

/-- The byte column of a node, from zero. -/
def columnOf (m : Module) (id : Nat) : Nat := (m.place id).column

def parent? (m : Module) (id : Nat) : Option Nat := m.nodes[id]?.bind (·.parent)

/-- The children of a node in source order. -/
def children (m : Module) (id : Nat) : List Nat := (m.nodes[id]?.map (·.children)).getD []

def class? (m : Module) (id : Nat) : Option ClassDef := (m.kind? id).bind (·.class?)

def function? (m : Module) (id : Nat) : Option FunctionDef := (m.kind? id).bind (·.function?)

def name? (m : Module) (id : Nat) : Option String := (m.kind? id).bind (·.name?)

def doc? (m : Module) (id : Nat) : Option Docstring := (m.kind? id).bind (·.doc?)

/-- The ancestors of a node, at most `bound` of them, the nearest first. -/
def ancestorsWithin (m : Module) : (bound : Nat) → Nat → List Nat
  | 0, _ => []
  | bound + 1, id =>
    match m.parent? id with
    | some parent => parent :: m.ancestorsWithin bound parent
    | none => []

/-- The ancestors of a node, the nearest first. A parent comes before its children, so a node
has at most as many ancestors as its position says. -/
def ancestors (m : Module) (id : Nat) : List Nat := m.ancestorsWithin id id

/-- The nearest module, class or function around a node. -/
def scope (m : Module) (id : Nat) : Nat :=
  ((m.ancestors id).find? (m.isKind NodeKind.isScope)).getD root

def enclosingClass? (m : Module) (id : Nat) : Option Nat :=
  (m.ancestors id).find? (m.isKind NodeKind.isClass)

def isNestedInFunction (m : Module) (id : Nat) : Bool :=
  (m.ancestors id).any (m.isKind NodeKind.isFunction)

/-- Whether a node is a function whose nearest scope is a class. -/
def isMethod (m : Module) (id : Nat) : Bool :=
  m.isKind NodeKind.isFunction id && m.isKind NodeKind.isClass (m.scope id)

/-- The functions below a node, down to `depth` levels, that no class or function encloses. -/
def functionsBelow (m : Module) : (depth : Nat) → Nat → List Nat
  | 0, _ => []
  | depth + 1, id =>
    (m.children id).flatMap fun child =>
      match m.kind? child with
      | some (.functionDef _) => [child]
      | some (.classDef _) => []
      | _ => m.functionsBelow depth child

/-- The methods of a class in source order, those in compound statements included. -/
def methods (m : Module) (id : Nat) : List Nat :=
  if m.isKind NodeKind.isClass id then m.functionsBelow m.nodes.size id else []

/-- The class with a name among the children of the module itself. -/
def topLevelClass? (m : Module) (name : String) : Option Nat :=
  (m.children root).find? fun id => ((m.class? id).map (·.name)) == some name

def definesDirectly (m : Module) (id : Nat) (method : String) : Bool :=
  (m.children id).any fun child => ((m.function? child).map (·.name)) == some method

end Module

end CodingStandard
