import CodingStandard.Model.Literal
import CodingStandard.Model.Node

namespace CodingStandard

/-!
# From syntax trees to outlines

An outline is a tree of modelled constructs. A construct that is not modelled is transparent:
what lies inside it hangs on the nearest modelled construct around it. Decorators, base classes
and parameters belong to the scope around a definition, and they come before it.
-/

/-- A tree of nodes that have no positions yet. -/
inductive Outline where
  | node (kind : NodeKind) (place : Place) (children : List Outline)
  deriving Repr

namespace Tree

def origin (t : Tree) : Origin := ⟨String.ofList t.text, t.place⟩

def label (t : Tree) : String := String.ofList t.text

mutual

def expr : Tree → Expr
  | node kind _ place text children =>
    let origin : Origin := ⟨String.ofList text, place⟩
    match kind with
    | .identifier => .name origin
    | .member =>
      match exprIn .object children, field? .member children with
      | some object, some attr => .member origin object attr.label
      | _, _ => .other origin
    | .call =>
      match exprIn .function children with
      | some func => .call origin func (argsIn children)
      | none => .other origin
    | .string => .str origin (Literal.value text)
    | .strings => .str origin ((parts children).flatMap fun part => Literal.value part.text)
    | .integer => .number origin
    | .float => .number origin
    | .tuple => .tuple origin (exprs children)
    | .expressionList => .tuple origin (exprs children)
    | .patternList => .tuple origin (exprs children)
    | .tuplePattern => .tuple origin (exprs children)
    | .list => .list origin (exprs children)
    | .listPattern => .list origin (exprs children)
    | .parenthesized =>
      match firstExpr children with
      | some inner => .parenthesized origin inner
      | none => .other origin
    | .dictionary => .dict origin
    | _ => .other origin

def exprs : List Tree → List Expr
  | [] => []
  | t :: rest =>
    if t.kind = .token ∨ t.kind = .comment then exprs rest else t.expr :: exprs rest

def firstExpr : List Tree → Option Expr
  | [] => none
  | t :: rest =>
    if t.kind = .token ∨ t.kind = .comment then firstExpr rest else some t.expr

def exprIn (role : Role) : List Tree → Option Expr
  | [] => none
  | t :: rest => if t.role = role then some t.expr else exprIn role rest

def argsIn : List Tree → List Expr
  | [] => []
  | node _ role _ _ children :: rest =>
    if role = .arguments then exprs children else argsIn rest

end

/-- The docstring of a body: its first part is a statement that is one string literal. -/
def docstring? (body : List Tree) : Option Docstring :=
  match (parts body).head? with
  | some (node .expressionStatement _ _ _ children) =>
    match parts children with
    | [node .string _ place text _] =>
      some ⟨text, Literal.normalizeNewlines (Literal.value text), place⟩
    | _ => none
  | _ => none

def decoratorOf (e : Expr) : Decorator :=
  match e with
  | .call _ func args => ⟨e, func.label, args, true⟩
  | _ => ⟨e, e.label, [], false⟩

def decorators (children : List Tree) : List Decorator :=
  (children.filter (·.kind == .decorator)).filterMap fun t =>
    (firstExpr t.children).map decoratorOf

mutual

def param? : Tree → Option Param
  | node kind _ _ text children =>
    match kind with
    | .identifier => some ⟨String.ofList text, .regular⟩
    | .defaultParameter => (field? .name children).map fun t => ⟨t.label, .regular⟩
    | .typedDefaultParameter => (field? .name children).map fun t => ⟨t.label, .regular⟩
    | .typedParameter => firstParam? children
    | .listSplatPattern => (parts children).head?.map fun t => ⟨t.label, .varArgs⟩
    | .dictSplatPattern => (parts children).head?.map fun t => ⟨t.label, .kwArgs⟩
    | _ => none

def firstParam? : List Tree → Option Param
  | [] => none
  | t :: rest =>
    if t.kind = .token ∨ t.kind = .comment then firstParam? rest else t.param?

end

def params (children : List Tree) : List Param :=
  match field? .parameters children with
  | some list => (parts list.children).filterMap param?
  | none => []

def importName? (t : Tree) : Option ImportName :=
  match t.kind with
  | .dottedName => some ⟨t.label, none⟩
  | .identifier => some ⟨t.label, none⟩
  | .aliasedImport =>
    (field? .name t.children).map fun name =>
      ⟨name.label, (field? .asName t.children).map label⟩
  | _ => none

/-- The module after `from`: its name without leading dots, and the number of these. -/
def importSource (children : List Tree) : Option String × Nat :=
  match field? .moduleName children with
  | none => (none, 0)
  | some t =>
    if t.kind = .relativeImport then
      let rest := Text.trim (t.text.dropWhile (· == '.'))
      (if rest.isEmpty then none else some (String.ofList rest),
        (t.text.takeWhile (· == '.')).length)
    else (some t.label, 0)

/-- The import that a statement of one of the three kinds makes. -/
def importOf (kind : TreeKind) (children : List Tree) : Import :=
  if kind = .importStatement then
    ⟨none, 0, false, (parts children).filterMap importName?, false⟩
  else
    let source := if kind = .futureImport then (some "__future__", 0) else importSource children
    { source := source.1
      level := source.2
      isFrom := true
      names := (children.filter (·.role == .name)).filterMap importName?
      wildcard := (parts children).any (·.kind == .wildcardImport) }

/-- The value at the end of a chain of assignments. -/
def finalValue : List Tree → Option Expr
  | [] => none
  | node kind role place text children :: rest =>
    if role = .right then
      (if kind = .assignment then finalValue children
       else some (expr (node kind role place text children)))
    else finalValue rest

/-- The class or function that a definition defines, with the decorators given to it. -/
def definitionKind (decorators : List Decorator) (kind : TreeKind) (children : List Tree) :
    NodeKind :=
  let name := ((field? .name children).map label).getD ""
  let doc := (field? .body children).bind fun body => docstring? body.children
  if kind = .classDefinition then
    .classDef ⟨name, ((field? .superclasses children).map fun t => exprs t.children).getD [],
      decorators, doc⟩
  else
    .functionDef ⟨name, params children, decorators, doc, children.any (·.isToken "async")⟩

/-- The part of a definition that is evaluated in the scope around it. -/
def hoistedRole (kind : TreeKind) : Role :=
  if kind = .classDefinition then .superclasses else .parameters

mutual

/-- The outlines of the modelled constructs in a tree. -/
def lower : Tree → List Outline
  | node kind _ place _ children =>
    match kind with
    | .decorated =>
      lowerDecorators children ++ lowerDefinition (decorators children) children
    | .classDefinition =>
      lowerField (hoistedRole kind) children ++
        [.node (definitionKind [] kind children) place (lowerBody children)]
    | .functionDefinition =>
      lowerField (hoistedRole kind) children ++
        [.node (definitionKind [] kind children) place (lowerBody children)]
    | .returnStatement => [.node (.returns (firstExpr children)) place (lowerAll children)]
    | .importStatement => [.node (.imports (importOf kind children)) place []]
    | .importFrom => [.node (.imports (importOf kind children)) place []]
    | .futureImport => [.node (.imports (importOf kind children)) place []]
    | .assignment =>
      [.node (.assign ⟨(exprIn .left children).toList, finalValue children⟩) place
        (lowerAll children)]
    | .compound statement => [.node (.compound statement) place (lowerAll children)]
    | .exceptClause =>
      [.node (.exceptHandler (children.any (·.isToken ","))) place (lowerAll children)]
    | .printStatement => [.node .print place (lowerAll children)]
    | .binaryOperator =>
      match exprIn .left children, exprIn .right children with
      | some left, some right =>
        let op := ((field? .operator children).map label).getD ""
        [.node (.binOp ⟨left, op, right⟩) place (lowerAll children)]
      | _, _ => lowerAll children
    | .call =>
      match exprIn .function children with
      | some func => [.node (.call ⟨func, argsIn children⟩) place (lowerAll children)]
      | none => lowerAll children
    | .comment => []
    | _ => lowerAll children

def lowerAll : List Tree → List Outline
  | [] => []
  | t :: rest => t.lower ++ lowerAll rest

def lowerDecorators : List Tree → List Outline
  | [] => []
  | node kind _ _ _ children :: rest =>
    if kind = .decorator then lowerAll children ++ lowerDecorators rest
    else lowerDecorators rest

def lowerDefinition (decorators : List Decorator) : List Tree → List Outline
  | [] => []
  | node kind role place _ children :: rest =>
    if role = .definition then
      lowerField (hoistedRole kind) children ++
        [.node (definitionKind decorators kind children) place (lowerBody children)]
    else lowerDefinition decorators rest

def lowerField (role : Role) : List Tree → List Outline
  | [] => []
  | t :: rest => if t.role = role then t.lower else lowerField role rest

def lowerBody : List Tree → List Outline
  | [] => []
  | node _ role _ _ children :: rest =>
    if role = .body then lowerAll children else lowerBody rest

end

/-- The outline of a whole source. A module starts at the first line whatever comes first. -/
def outline (t : Tree) : Outline :=
  .node (.root (docstring? t.children)) ⟨1, 0⟩ (lowerAll t.children)

end Tree

end CodingStandard
