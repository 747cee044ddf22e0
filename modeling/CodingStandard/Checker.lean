import CodingStandard.Resolution.Reexport
import CodingStandard.Sink

namespace CodingStandard

/-!
# Checkers

A checker declares its messages and the kinds of nodes that it wants to see. Visiting such a
node, it emits messages and may give up the whole file with an error. It can ask a library for
other modules, and for nothing else.
-/

inductive CheckError where
  /-- A name is missing where it is needed. -/
  | lookup (what : String)
  /-- A construct has another shape than a checker relies on. -/
  | structural (what : String)
  | resolve (error : ResolveError)
  deriving DecidableEq, Repr

def CheckError.message : CheckError → String
  | lookup what => "lookup failed: " ++ what
  | structural what => "unexpected structure: " ++ what
  | resolve error => error.message

/-- What a checker sees of the file and the node that it visits. -/
structure Site where
  file : SourceFile
  home : Module
  lines : Scan
  node : Nat
  /-- The codes of the known messages that were emitted for the file before. -/
  attempted : List String

/-- What a visit leaves behind. -/
structure Visit where
  emissions : List Emission
  library : Library
  error : Option CheckError

namespace Visit

def emitting (library : Library) (emissions : List Emission) : Visit := ⟨emissions, library, none⟩

end Visit

structure Checker where
  name : String
  description : String
  messages : List MessageDef
  hooks : List NodeTag
  enter : Site → Library → Visit

namespace Emission

/-- A message about a node, on a line of its own choice and in the column of the node. -/
def about (m : Module) (node : Nat) (code : String) (line : Nat) (args : List String) : Emission :=
  ⟨code, line, m.columnOf node + 1, args, some node⟩

/-- A message at a place, about no node. -/
def atPlace (code : String) (line column : Nat) (args : List String) : Emission :=
  ⟨code, line, column, args, none⟩

end Emission

end CodingStandard
