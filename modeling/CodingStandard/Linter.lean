import CodingStandard.Checker

namespace CodingStandard

/-!
# Checking a file

The nodes of a module are visited from the top down and in source order, each by the checkers
that ask for its kind, in the order of their registration. An error ends the visit of the file;
what was reported before it stays.
-/

structure FileReport where
  violations : List Violation
  error : Option CheckError
  library : Library

/-- Checkers with the catalog of their messages and a policy. -/
structure Linter where
  checkers : List Checker
  catalog : Catalog
  policy : Policy

namespace Linter

def registerAll (catalog : Catalog) : List Checker → Except CatalogError Catalog
  | [] => .ok catalog
  | c :: rest =>
    match catalog.register c.name c.messages with
    | (catalog, none) => registerAll catalog rest
    | (_, some error) => .error error

/-- The catalog of several checkers and of the program itself. -/
def catalogOf (checkers : List Checker) : Except CatalogError Catalog :=
  registerAll .initial checkers

/-- The checkers with a policy that depends on their catalog. -/
def build (checkers : List Checker) (policy : Catalog → Policy) : Except CatalogError Linter :=
  (catalogOf checkers).map fun catalog => ⟨checkers, catalog, policy catalog⟩

/-- How far the visit of a file has come. -/
structure Progress where
  sink : Sink
  library : Library
  error : Option CheckError

def call (file : SourceFile) (m : Module) (lines : Scan) (node : Nat) (p : Progress)
    (c : Checker) : Progress :=
  let visit := c.enter ⟨file, m, lines, node, p.sink.attempted⟩ p.library
  ⟨p.sink.recordAll visit.emissions, visit.library, visit.error⟩

/-- The checkers to call for a kind of node. A checker is called as often as it asks for it. -/
def interested (linter : Linter) (tag : NodeTag) : List Checker :=
  linter.checkers.flatMap fun c => (c.hooks.filter (· == tag)).map fun _ => c

/-- Takes steps for the members of a list, up to the first step that fails. -/
def untilFailed {α σ : Type} (step : σ → α → σ) (failed : σ → Bool) : List α → σ → σ
  | [], s => s
  | a :: rest, s =>
    let next := step s a
    if failed next then next else untilFailed step failed rest next

/-- Calls the checkers that ask for a node. What a call does to the state of the walk is given. -/
def visitNode {σ : Type} (linter : Linter) (m : Module) (call : Nat → σ → Checker → σ)
    (failed : σ → Bool) (node : Nat) (s : σ) : σ :=
  match m.kind? node with
  | some kind => untilFailed (call node) failed (linter.interested kind.tag) s
  | none => s

/-- Visits the nodes on a stack and all that lies in them, at most `bound` nodes and none after a
call has failed. -/
def walkWithin {σ : Type} (linter : Linter) (m : Module) (call : Nat → σ → Checker → σ)
    (failed : σ → Bool) : (bound : Nat) → (stack : List Nat) → σ → σ
  | 0, _, s => s
  | _ + 1, [], s => s
  | bound + 1, node :: stack, s =>
    let s := linter.visitNode m call failed node s
    if failed s then s
    else linter.walkWithin m call failed bound (m.children node ++ stack) s

def walk {σ : Type} (linter : Linter) (m : Module) (call : Nat → σ → Checker → σ)
    (failed : σ → Bool) (s : σ) : σ :=
  linter.walkWithin m call failed m.nodes.size [Module.root] s

def start (linter : Linter) (file : SourceFile) (lines : Scan) (lib : Library) : Progress :=
  ⟨Sink.start linter.catalog linter.policy file (.ofScan lines), lib, none⟩

/-- What is reported in the end. -/
def Progress.report (p : Progress) : FileReport := ⟨p.sink.violations, p.error, p.library⟩

def check (linter : Linter) (file : SourceFile) (m : Module) (lib : Library) : FileReport :=
  let lines := scan m.source
  (linter.walk m (call file m lines) (·.error.isSome) (linter.start file lines lib)).report

end Linter

end CodingStandard
