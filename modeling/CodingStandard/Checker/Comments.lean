import CodingStandard.Checker
import CodingStandard.Text.Letter

namespace CodingStandard

/-!
# Comments

The first line of a block of comments starts with one space and a capital letter.
-/

namespace Comments

def oneWhitespace : MessageDef where
  code := "W9401"
  symbol := "comments-one-whitespace"
  summary := "Comments should begin with one whitespace"
  detail := "Used for checking comment format issues."
  defaultEnabled := true

def capitalized : MessageDef where
  code := "W9402"
  symbol := "comments-capitalized"
  summary := "The first letter of comment should be capitalized"
  detail := "Used for checking comment format issues."
  defaultEnabled := true

def hasOneSpace (comment : Text) : Bool :=
  Text.startsWith comment "# ".toList && !Text.startsWith comment "#  ".toList

/-- Whether the first character of a comment is a small letter. -/
def startsSmall (comment : Text) : Bool :=
  (Text.trimStart (comment.dropWhile (· == '#'))).head?.any Text.isLower

structure Finding where
  code : String
  line : Nat
  column : Nat
  deriving DecidableEq, Repr

/-- The problems of a comment that starts a block. Directives have none. -/
def ofComment (line : Nat) (comment : Comment) : List Finding :=
  if Directive.isDirective comment.text then []
  else
    (if hasOneSpace comment.text then [] else [⟨oneWhitespace.code, line, comment.column + 1⟩]) ++
      (if startsSmall comment.text then [⟨capitalized.code, line, comment.column + 1⟩] else [])

/-- The problems of the comments on the lines that follow. `first` says that a comment here would
start a block. Lines that start inside a string are passed over. -/
def findingsFrom : (first : Bool) → List PhysicalLine → List Finding
  | _, [] => []
  | first, line :: rest =>
    if line.inString then findingsFrom first rest
    else match line.comment with
      | none => findingsFrom true rest
      | some comment =>
        (if first then ofComment line.number comment else []) ++ findingsFrom false rest

def findings (scan : Scan) : List Finding := findingsFrom true scan.physical

def checker : Checker where
  name := "comments"
  description := ""
  messages := [oneWhitespace, capitalized]
  hooks := [.root]
  enter site lib := .emitting lib
    ((findings site.lines).map fun f => .atPlace f.code f.line f.column [])

end Comments

end CodingStandard
