import CodingStandard.Checker

namespace CodingStandard

/-!
# The header of a module

Every module carries the lines of the copyright notice, one after the other, and a module that is
neither a test nor private names its test module.
-/

namespace Header

def missingCopyright : MessageDef where
  code := "W9001"
  symbol := "missing-copyright-header"
  summary := "Missing copyright header"
  detail := "Used when a module has no copyright header."
  defaultEnabled := true

def missingTestReference : MessageDef where
  code := "W9002"
  symbol := "missing-test-header"
  summary := "Missing a reference to test module in header"
  detail := "Used when a module does not contain a reference to test module."
  defaultEnabled := true

def defaultNotice : List Text := [
  "# Copyright (c) Twisted Matrix Laboratories.".toList,
  "# See LICENSE for details.".toList]

/-- Whether white space with a newline in it leads to a place that passes a test. `broken` says
that the newline has been passed. -/
def afterBreak (next : Text → Bool) : (broken : Bool) → Text → Bool
  | broken, [] => broken && next []
  | broken, c :: t =>
    (broken && next (c :: t)) || (Text.isBlank c && afterBreak next (broken || c == '\n') t)

/-- Whether a text starts with the given lines, with nothing but white space around the line
breaks between them. -/
def startsWithLines : List Text → Text → Bool
  | [], _ => true
  | [last], t => Text.startsWith t last
  | line :: rest, t =>
    match Text.after? line t with
    | some t => afterBreak (startsWithLines rest) false t
    | none => false

/-- Whether the text from some place on passes a test. -/
def somewhere (p : Text → Bool) : Text → Bool
  | [] => p []
  | c :: t => p (c :: t) || somewhere p t

def hasNotice (notice : List Text) (t : Text) : Bool := somewhere (startsWithLines notice) t

/-- A segment of the name of a test module: lower-case letters, digits and underscores, and no
digit first. -/
def isSegment (t : Text) : Bool :=
  t.all (fun c => ('a' ≤ c && c ≤ 'z') || c.isDigit || c == '_') &&
    t.head?.any (fun c => !c.isDigit)

def startsWithReference (t : Text) : Bool :=
  match Text.after? "# -*- test-case-name: ".toList t with
  | some rest =>
    let name := rest.takeWhile (· != ' ')
    (Text.splitOn '.' name).all isSegment &&
      Text.startsWith (rest.drop name.length) " -*-".toList
  | none => false

def hasReference (t : Text) : Bool := somewhere startsWithReference t

def findings (notice : List Text) (requiresReference : Bool) (source : Text) : List String :=
  (if hasNotice notice source then [] else [missingCopyright.code]) ++
    (if requiresReference && !hasReference source then [missingTestReference.code] else [])

def checker (notice : List Text) : Checker where
  name := "header"
  description := "Checks the copyright header and the test module reference"
  messages := [missingCopyright, missingTestReference]
  hooks := [.root]
  enter site lib := .emitting lib
    ((findings notice site.file.requiresTestReference site.home.source).map fun code =>
      .about site.home site.node code 1 [])

end Header

end CodingStandard
