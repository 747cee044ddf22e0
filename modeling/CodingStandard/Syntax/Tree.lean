import CodingStandard.Text

namespace CodingStandard

/-!
# Syntax trees

The tree of a Python source. A node has a kind, the role that it plays in its parent, the place
where it starts, its exact text and its children in source order. Keywords and punctuation are
children of kind `token`; comments and joined lines are children of the innermost node that has
tokens on both sides of them. Constructs that no rule looks at have kind `other`.
-/

/-- The place where something starts: a line, from one, and a byte column, from zero. -/
structure Place where
  line : Nat
  column : Nat
  deriving DecidableEq, Repr, Inhabited

inductive Compound where
  | conditional
  | forLoop
  | whileLoop
  | withBlock
  | tryBlock
  | matchBlock
  deriving DecidableEq, Hashable, Repr

def Compound.keyword : Compound → String
  | conditional => "if"
  | forLoop => "for"
  | whileLoop => "while"
  | withBlock => "with"
  | tryBlock => "try"
  | matchBlock => "match"

inductive TreeKind where
  | file
  | comment
  /-- A backslash and the newline after it. -/
  | continuation
  /-- A keyword or a punctuation mark. -/
  | token
  | identifier
  | integer
  | float
  | string
  /-- Adjacent string literals. -/
  | strings
  | member
  | call
  | arguments
  | tuple
  /-- Expressions with commas between them, without brackets. -/
  | expressionList
  | patternList
  | tuplePattern
  | list
  | listPattern
  | parenthesized
  | dictionary
  | binaryOperator
  | decorated
  | decorator
  | classDefinition
  | functionDefinition
  | block
  | parameters
  | defaultParameter
  | typedParameter
  | typedDefaultParameter
  | listSplatPattern
  | dictSplatPattern
  | returnStatement
  | importStatement
  | importFrom
  | futureImport
  | dottedName
  | aliasedImport
  | relativeImport
  | wildcardImport
  | assignment
  | compound (statement : Compound)
  | exceptClause
  | printStatement
  | expressionStatement
  | other
  deriving DecidableEq, Hashable, Repr

/-- The part that a node plays in its parent. -/
inductive Role where
  | plain
  | object
  | member
  | function
  | arguments
  | argument
  | parameters
  | typeParameters
  | name
  | asName
  | moduleName
  | definition
  | left
  | right
  | operator
  | value
  | key
  | index
  | hint
  | returnHint
  | superclasses
  | condition
  | consequence
  | alternative
  | subject
  | guard
  | cause
  | code
  | body
  | expression
  | conversion
  | format
  deriving DecidableEq, Hashable, Repr

inductive Tree where
  | node (kind : TreeKind) (role : Role) (place : Place) (text : Text) (children : List Tree)
  deriving Repr

namespace Tree

def kind : Tree → TreeKind
  | node kind _ _ _ _ => kind

def role : Tree → Role
  | node _ role _ _ _ => role

def place : Tree → Place
  | node _ _ place _ _ => place

def text : Tree → Text
  | node _ _ _ text _ => text

def children : Tree → List Tree
  | node _ _ _ _ children => children

/-- Whether a node is more than a keyword or a punctuation mark. -/
def isNamed (t : Tree) : Bool := t.kind != .token

def isToken (t : Tree) (text : String) : Bool := t.kind == .token && t.text == text.toList

/-- The children of a node that carry meaning: all but tokens and comments. -/
def parts (ts : List Tree) : List Tree := ts.filter fun t => t.isNamed && t.kind != .comment

def field? (role : Role) (ts : List Tree) : Option Tree := ts.find? (·.role == role)

end Tree

end CodingStandard
