import CodingStandard.Syntax.Tree

namespace CodingStandard

/-!
# Expressions

The view of expressions that the rules need: names, attributes, calls, literals and displays.
Everything else is `other`.
-/

/-- The source text of an expression and the place where it starts. -/
structure Origin where
  text : String
  place : Place
  deriving DecidableEq, Repr

inductive Expr where
  | name (origin : Origin)
  | member (origin : Origin) (object : Expr) (attr : String)
  | call (origin : Origin) (func : Expr) (args : List Expr)
  /-- A string literal or several adjacent ones, with the text between the quotes. -/
  | str (origin : Origin) (value : Text)
  | number (origin : Origin)
  | tuple (origin : Origin) (items : List Expr)
  | list (origin : Origin) (items : List Expr)
  | parenthesized (origin : Origin) (inner : Expr)
  | dict (origin : Origin)
  | other (origin : Origin)
  deriving Repr

namespace Expr

def origin : Expr → Origin
  | name origin => origin
  | member origin _ _ => origin
  | call origin _ _ => origin
  | str origin _ => origin
  | number origin => origin
  | tuple origin _ => origin
  | list origin _ => origin
  | parenthesized origin _ => origin
  | dict origin => origin
  | other origin => origin

def text (e : Expr) : String := e.origin.text

/-- The dotted name that a name or an attribute of such a name spells. -/
def dottedName? : Expr → Option String
  | name origin => some origin.text
  | member _ object attr => object.dottedName?.map fun base => base ++ "." ++ attr
  | _ => none

/-- The dotted name of an expression, or its source text if it spells none. -/
def label (e : Expr) : String := e.dottedName?.getD e.text

mutual

/-- The plain names that an assignment to this target binds, through tuples, lists and
parentheses. -/
def boundNames : Expr → List String
  | name origin => [origin.text]
  | tuple _ items => boundNamesAll items
  | list _ items => boundNamesAll items
  | parenthesized _ inner => inner.boundNames
  | _ => []

def boundNamesAll : List Expr → List String
  | [] => []
  | e :: rest => e.boundNames ++ boundNamesAll rest

end

end Expr

end CodingStandard
