import CodingStandard.Model.Expr

namespace CodingStandard

/-!
# Nodes of a module

The constructs of a module that the rules look at.
-/

/-- A docstring: the literal, the text between its quotes with every line ending as a newline,
and the place of the literal. -/
structure Docstring where
  raw : Text
  value : Text
  place : Place
  deriving DecidableEq, Repr

/-- A decorator. For a call the name is that of the callee. -/
structure Decorator where
  expr : Expr
  name : String
  args : List Expr
  isCall : Bool
  deriving Repr

inductive ParamKind where
  | regular
  | varArgs
  | kwArgs
  deriving DecidableEq, Repr

/-- A parameter, its name without stars. -/
structure Param where
  name : String
  kind : ParamKind
  deriving DecidableEq, Repr

structure ClassDef where
  name : String
  bases : List Expr
  decorators : List Decorator
  doc : Option Docstring
  deriving Repr

structure FunctionDef where
  name : String
  params : List Param
  decorators : List Decorator
  doc : Option Docstring
  isAsync : Bool
  deriving Repr

namespace FunctionDef

/-- Whether a decorator has exactly this name. -/
def hasDecorator (f : FunctionDef) (name : String) : Bool := f.decorators.any (·.name == name)

/-- Whether the name of a decorator ends in this text. -/
def hasDecoratorEnding (f : FunctionDef) (tail : String) : Bool :=
  f.decorators.any fun d => Text.endsWith d.name.toList tail.toList

end FunctionDef

/-- An imported name and the alias given to it. -/
structure ImportName where
  name : String
  asName : Option String
  deriving DecidableEq, Repr

structure Import where
  /-- The module after `from`, without leading dots. -/
  source : Option String
  /-- The number of leading dots. -/
  level : Nat
  isFrom : Bool
  names : List ImportName
  wildcard : Bool
  deriving DecidableEq, Repr

namespace Import

/-- The name that an imported name gets: its alias, its name, or, for a plain import, the first
segment of its name. -/
def boundName (isFrom : Bool) (imported : ImportName) : String :=
  match imported.asName with
  | some given => given
  | none =>
    if isFrom then imported.name
    else String.ofList (imported.name.toList.takeWhile (· != '.'))

/-- The names that the statement binds, each with the import that it stands for. -/
def bindings (i : Import) : List (String × ImportName) :=
  i.names.map fun imported => (boundName i.isFrom imported, imported)

def binding? (i : Import) (name : String) : Option ImportName := i.bindings.lookup name

end Import

/-- An assignment; an annotation without value has none. -/
structure Assign where
  targets : List Expr
  value : Option Expr
  deriving Repr

/-- The plain names that an assignment binds. -/
def Assign.names (a : Assign) : List String := Expr.boundNamesAll a.targets

structure BinOp where
  left : Expr
  op : String
  right : Expr
  deriving Repr

structure Call where
  func : Expr
  args : List Expr
  deriving Repr

/-- What a node is. -/
inductive NodeKind where
  | root (doc : Option Docstring)
  | classDef (definition : ClassDef)
  | functionDef (definition : FunctionDef)
  | returns (value : Option Expr)
  | imports (statement : Import)
  | assign (statement : Assign)
  | compound (statement : Compound)
  /-- An `except` clause, and whether it uses a comma in place of `as`. -/
  | exceptHandler (oldStyle : Bool)
  | print
  | binOp (operation : BinOp)
  | call (expression : Call)
  deriving Repr

/-- The kinds of nodes that a checker can ask for. -/
inductive NodeTag where
  | root
  | classDef
  | functionDef
  | returns
  | imports
  | assign
  | compound
  | exceptHandler
  | print
  | binOp
  | call
  deriving DecidableEq, Repr

namespace NodeKind

def tag : NodeKind → NodeTag
  | root _ => .root
  | classDef _ => .classDef
  | functionDef _ => .functionDef
  | returns _ => .returns
  | imports _ => .imports
  | assign _ => .assign
  | compound _ => .compound
  | exceptHandler _ => .exceptHandler
  | print => .print
  | binOp _ => .binOp
  | call _ => .call

def class? : NodeKind → Option ClassDef
  | classDef c => some c
  | _ => none

def function? : NodeKind → Option FunctionDef
  | functionDef f => some f
  | _ => none

def isClass (kind : NodeKind) : Bool := kind.class?.isSome

def isFunction (kind : NodeKind) : Bool := kind.function?.isSome

/-- Whether names are bound in it: a module, a class or a function. -/
def isScope : NodeKind → Bool
  | root _ => true
  | classDef _ => true
  | functionDef _ => true
  | _ => false

def name? : NodeKind → Option String
  | classDef c => some c.name
  | functionDef f => some f.name
  | _ => none

def doc? : NodeKind → Option Docstring
  | root doc => doc
  | classDef c => c.doc
  | functionDef f => f.doc
  | _ => none

end NodeKind

/-- A node of a module, with the positions of its parent and its children among the nodes. -/
structure Node where
  kind : NodeKind
  place : Place
  parent : Option Nat
  children : List Nat
  deriving Repr

end CodingStandard
