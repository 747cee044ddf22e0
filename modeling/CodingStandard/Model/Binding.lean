import CodingStandard.Model.Module

namespace CodingStandard

/-!
# Names and scopes

What the statements of a scope bind, and which binding a name means at a place. Classes and
functions bind their own names and hide what is bound inside them.
-/

/-- What introduces a name. -/
inductive BindingKind where
  | classDef
  | functionDef
  | imports
  | assign
  | param
  deriving DecidableEq, Repr

/-- A bound name, the node that binds it and the line of that node. -/
structure Binding where
  name : String
  kind : BindingKind
  node : Nat
  line : Nat
  deriving DecidableEq, Repr

namespace Module

/-- The names that a node itself binds in the scope around it, and how. -/
def namesBoundBy : NodeKind → List (String × BindingKind)
  | .classDef c => [(c.name, .classDef)]
  | .functionDef f => [(f.name, .functionDef)]
  | .imports i => i.bindings.map fun (name, _) => (name, .imports)
  | .assign a => a.names.map fun name => (name, .assign)
  | _ => []

def ownBindings (m : Module) (id : Nat) : List Binding :=
  match m.kind? id with
  | some kind => (namesBoundBy kind).map fun (name, how) => ⟨name, how, id, m.lineOf id⟩
  | none => []

/-- The bindings of a node and, down to `depth` levels, of what lies in it, unless it is a scope
of its own. -/
def bindingsAt (m : Module) : (depth : Nat) → Nat → List Binding
  | 0, _ => []
  | depth + 1, id =>
    m.ownBindings id ++
      (if m.isKind (fun k => k.isClass || k.isFunction) id then []
       else (m.children id).flatMap (m.bindingsAt depth))

def paramBindings (m : Module) (scope : Nat) : List Binding :=
  match m.function? scope with
  | some f => f.params.map fun p => ⟨p.name, .param, scope, m.lineOf scope⟩
  | none => []

/-- The bindings made directly in a scope, in source order. -/
def bindings (m : Module) (scope : Nat) : List Binding :=
  m.paramBindings scope ++ (m.children scope).flatMap (m.bindingsAt m.nodes.size)

/-- The scopes that a name at a node is looked up in, the innermost first. A class counts only if
it is the innermost scope. -/
def scopeChain (m : Module) (id : Nat) : List Nat :=
  m.scope id ::
    (m.ancestors (m.scope id)).filter (m.isKind fun k => k.isScope && !k.isClass)

def topLevelBinding? (m : Module) (name : String) : Option Binding :=
  (m.bindings root).find? (·.name == name)

def bindingsOf (m : Module) (scope : Nat) (name : String) : List Binding :=
  (m.bindings scope).filter (·.name == name)

/-- The binding of a name in one scope, as seen from a line: the last one up to that line, or the
first one after it. -/
def bindingSeen? (m : Module) (name : String) (line : Nat) (scope : Nat) : Option Binding :=
  ((m.bindingsOf scope name).filter (·.line ≤ line)).getLast?.or (m.bindingsOf scope name).head?

/-- The binding that a name means at a node: the innermost scope that binds it decides. -/
def lookup? (m : Module) (id : Nat) (name : String) : Option Binding :=
  (m.scopeChain id).findSome? (m.bindingSeen? name (m.lineOf id))

def assignedValue? (m : Module) (id : Nat) : Option Expr :=
  match m.kind? id with
  | some (.assign a) => a.value
  | _ => none

/-- The value of the last assignment to a name up to the line of a node, in the innermost scope
that binds the name so early. Another kind of binding has no value. -/
def precedingValue? (m : Module) (id : Nat) (name : String) : Option Expr :=
  ((m.scopeChain id).findSome? fun scope =>
    ((m.bindingsOf scope name).filter (·.line ≤ m.lineOf id)).getLast?).bind fun b =>
      m.assignedValue? b.node

end Module

end CodingStandard
