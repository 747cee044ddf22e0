import CodingStandard.Checker

namespace CodingStandard

/-!
# Blank lines and line ends

Definitions at the top level are separated by three blank lines and methods by two. No blank line
follows a decorator, and inside blocks only a few blank lines stand in a row. Lines do not end in
blanks, and a file ends in exactly one newline.
-/

namespace Spacing

def trailingWhitespace : MessageDef where
  code := "W9010"
  symbol := "trailing-whitespace"
  summary := "Trailing whitespace found in the end of line"
  detail := "Used when a line contains a trailing space."
  defaultEnabled := false

def blankLineWhitespace : MessageDef where
  code := "W9011"
  symbol := "blank-line-whitespace"
  summary := "Blank line contains whitespace"
  detail := "Used when found a line contains whitespace."
  defaultEnabled := false

/-- A method that two blank lines do not precede. -/
def expectedTwo : MessageDef where
  code := "W9012"
  symbol := "expected-2-blank-lines"
  summary := "Expected 2 blank lines, found \x7b\x7d"
  detail := "Class-level functions should be separated with 2 blank lines."
  defaultEnabled := true

/-- A definition at the top level that three blank lines do not precede. -/
def expectedThree : MessageDef where
  code := "W9013"
  symbol := "expected-3-blank-lines"
  summary := "Expected 3 blank lines, found \x7b\x7d"
  detail := "Top-level functions should be separated with 3 blank lines."
  defaultEnabled := true

def tooMany : MessageDef where
  code := "W9015"
  symbol := "too-many-blank-lines"
  summary := "Too many blank lines, found \x7b\x7d"
  detail := "Used when too many blank lines are found."
  defaultEnabled := true

def tooManyAfterDocstring : MessageDef where
  code := "W9016"
  symbol := "too-many-blank-lines-after-docstring"
  summary := "Too many blank lines after docstring, found \x7b\x7d"
  detail := "Used when too many blank lines after docstring are found."
  defaultEnabled := true

def blankAtEnd : MessageDef where
  code := "W9017"
  symbol := "blank-line-at-eof"
  summary := "Blank line at end of file"
  detail := "More than one blank line found at EOF."
  defaultEnabled := false

def noNewlineAtEnd : MessageDef where
  code := "W9018"
  symbol := "no-newline-at-eof"
  summary := "No newline at end of file"
  detail := "No newline is found at end of file."
  defaultEnabled := false

def afterDecorator : MessageDef where
  code := "W9027"
  symbol := "blank-lines-after-decorator"
  summary := "Blank lines found after a function decorator"
  detail := "Function decorators should be directly followed by the definition."
  defaultEnabled := true

/-- A problem with its place and, for some, the number of blank lines found. -/
structure Finding where
  code : String
  line : Nat
  column : Nat
  arg : Option String
  deriving DecidableEq, Repr

/-- A finding about the number of blank lines before a logical line. -/
def Finding.counting (msg : MessageDef) (line : LogicalLine) : Finding :=
  ⟨msg.code, line.start, line.indent + 1, some (toString line.blankBefore)⟩

def isDecorator (t : Text) : Bool := t.head? == some '@'

def opensFunction (t : Text) : Bool := Text.startsWith t "def ".toList

/-- Whether a logical line starts a definition or decorates one. -/
def opensDefinition (t : Text) : Bool :=
  opensFunction t || Text.startsWith t "async def ".toList ||
    Text.startsWith t "class ".toList || isDecorator t

def isDocstring (t : Text) : Bool :=
  let body := t.dropWhile ("uUrRbB".toList.contains ·)
  t.length ≤ body.length + 2 && body.head?.any fun c => c == '"' || c == '\''

/-- The problem with the blank lines between two logical lines. -/
def between? (maxBlankLines : Nat) (previous current : LogicalLine) : Option Finding :=
  let blanks := current.blankBefore
  if isDecorator previous.text then
    if blanks > 0 then some ⟨afterDecorator.code, current.start, current.indent + 1, none⟩
    else none
  else if opensDefinition current.text then
    if current.indent > 0 then
      if isDocstring previous.text then
        let emptyMethod := previous.indent == current.indent + 4 &&
          opensFunction current.text && blanks == 2
        if !emptyMethod && blanks > 1 then some (.counting tooManyAfterDocstring current)
        else none
      else if blanks == 2 || current.indent > 4 || previous.indent < current.indent then none
      else some (.counting expectedTwo current)
    else if blanks != 3 then some (.counting expectedThree current)
    else none
  else if blanks > maxBlankLines && current.indent > 0 then some (.counting tooMany current)
  else none

def blankLineFindings (maxBlankLines : Nat) : List LogicalLine → List Finding
  | previous :: current :: rest =>
    (between? maxBlankLines previous current).toList ++
      blankLineFindings maxBlankLines (current :: rest)
  | _ => []

def isTrailing (c : Char) : Bool := c == ' ' || c == '\t' || c == '\x0c'

def lineEnd? (line : PhysicalLine) : Option Finding :=
  let trimmed := Text.dropEndWhile isTrailing line.text
  if trimmed.length = line.text.length then none
  else if trimmed.isEmpty then some ⟨blankLineWhitespace.code, line.number, 1, none⟩
  else some ⟨trailingWhitespace.code, line.number, Text.byteLength trimmed + 1, none⟩

def fileEnd? (scan : Scan) : Option Finding := do
  let last ← scan.physical.getLast?
  if !scan.endsWithNewline then
    some ⟨noNewlineAtEnd.code, last.number, Text.byteLength last.text + 1, none⟩
  else if Text.isWhite last.text then some ⟨blankAtEnd.code, last.number, 1, none⟩
  else none

def physicalFindings (scan : Scan) : List Finding :=
  scan.physical.filterMap lineEnd? ++ (fileEnd? scan).toList

def checker (maxBlankLines : Nat) : Checker where
  name := "spacing"
  description := "Checks blank lines around definitions and whitespace at line ends"
  messages := [trailingWhitespace, blankLineWhitespace, expectedTwo, expectedThree, tooMany,
    tooManyAfterDocstring, blankAtEnd, noNewlineAtEnd, afterDecorator]
  hooks := [.root]
  enter site lib := .emitting lib
    ((blankLineFindings maxBlankLines site.lines.logical ++ physicalFindings site.lines).map
      fun f => .atPlace f.code f.line f.column f.arg.toList)

end Spacing

end CodingStandard
