import CodingStandard.Model.Binding
import CodingStandard.Syntax.Parse

namespace CodingStandard

/-!
# Modules of sources

A parser makes a tree of every source, be it well formed or not. What is made of the tree from
there on does not depend on the parser.
-/

/-- What a parser makes of a source. A tree of a source with errors is one that was recovered. -/
structure Parsed where
  tree : Tree
  hasErrors : Bool
  deriving Repr

structure Parser where
  parse : Text → Parsed

namespace Parser

/-- The parser of the grammar. It recovers nothing but the module from a source with errors. -/
def python : Parser where
  parse source :=
    match Tree.parse? source with
    | some tree => ⟨tree, false⟩
    | none => ⟨.node .file .plain ⟨1, 0⟩ [] [], true⟩

/-- The module that a parser makes of a source. -/
def moduleOf (parser : Parser) (name : String) (path : Path) (source : Text) : Module :=
  let parsed := parser.parse source
  { Module.ofTree name path source parsed.tree with syntaxErrors := parsed.hasErrors }

end Parser

/-- The module of a source by the grammar. -/
def Module.ofSource (name : String) (path : Path) (source : Text) : Module :=
  Parser.python.moduleOf name path source

end CodingStandard
