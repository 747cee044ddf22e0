import CodingStandard.Layout.Lexical
import CodingStandard.Layout.Line

namespace CodingStandard

/-!
# Scanning a source text

`scan` walks over the lines of a source once. What one line hands to the next is a `Carry`: the
string that is still open, the bracket depth, the logical line under construction and the runs
of blank lines met since the last logical line began.
-/

structure Scan where
  physical : List PhysicalLine
  logical : List LogicalLine
  endsWithNewline : Bool
  deriving Repr

/-- What a line hands to the next one. -/
structure Carry where
  string : Option OpenString
  depth : Nat
  pending : Option LogicalLine
  run : Nat
  longest : Nat
  deriving Repr

namespace Carry

def initial : Carry := ⟨none, 0, none, 0, 0⟩

/-- The literal left open by a line: one that a single mark closes ends with its line, unless the
line ends in a backslash. -/
def openAfter (mode : Mode) (raw : Text) : Option OpenString :=
  match mode.openString? with
  | some ⟨mark, false⟩ => if raw.getLast? = some '\\' then some ⟨mark, false⟩ else none
  | other => other

/-- The part of a line's code that enters its logical line. -/
def segment (continued backslash : Bool) (code : Text) : Text :=
  let body := if continued then Text.trim code else Text.trimEnd code
  if backslash then Text.trimEnd (Text.dropEndWhile (· == '\\') body) else body

/-- Whether a backslash at the end of the code joins the next line. -/
def endsInBackslash (string : Option OpenString) (code : Text) : Bool :=
  string.isNone && (Text.trimEnd code).getLast? == some '\\'

/-- The logical line after a physical line of code has been added to it. -/
def extend (carry : Carry) (number : Nat) (raw part : Text) : LogicalLine :=
  match carry.pending with
  | some logical => { logical with text := logical.text ++ ' ' :: part, stop := number }
  | none => ⟨Text.trimStart part, number, number, indentWidth raw, carry.longest⟩

def physicalLine (carry : Carry) (number : Nat) (raw : Text) : PhysicalLine :=
  let cut := Lexer.split ⟨Mode.start carry.string, carry.depth⟩ raw
  { number := number
    text := raw
    comment := cut.2.map fun text => ⟨Text.byteLength cut.1, text⟩
    inString := carry.string.isSome
    continuation := carry.pending.isSome }

/-- What a line leaves behind, and the logical line that it completes. -/
def next (carry : Carry) (number : Nat) (raw : Text) : Carry × Option LogicalLine :=
  let line := carry.physicalLine number raw
  let start : Lexer := ⟨Mode.start carry.string, carry.depth⟩
  let code := (start.split raw).1
  let after := start.run code
  let string := openAfter after.mode raw
  if line.isBlank then
    ({ carry with
        string := string, depth := after.depth
        run := carry.run + 1, longest := max carry.longest (carry.run + 1) }, none)
  else if line.isCommentOnly then
    ({ carry with string := string, depth := after.depth, run := 0 }, none)
  else
    let backslash := endsInBackslash string code
    let logical := carry.extend number raw (segment carry.pending.isSome backslash code)
    let run := if carry.pending.isSome then carry.run else 0
    let longest := if carry.pending.isSome then carry.longest else 0
    if string.isNone && after.depth == 0 && !backslash then
      (⟨string, after.depth, none, run, longest⟩, some logical)
    else (⟨string, after.depth, some logical, run, longest⟩, none)

end Carry

def physicalLines (carry : Carry) (number : Nat) : List Text → List PhysicalLine
  | [] => []
  | raw :: rest =>
    carry.physicalLine number raw :: physicalLines (carry.next number raw).1 (number + 1) rest

/-- The logical lines that the lines of text that follow complete. The text may end inside one. -/
def logicalLines (carry : Carry) (number : Nat) : List Text → List LogicalLine
  | [] => carry.pending.toList
  | raw :: rest =>
    match carry.next number raw with
    | (after, done) => done.toList ++ logicalLines after (number + 1) rest

def scan (source : Text) : Scan :=
  { physical := physicalLines .initial 1 (Text.lines source)
    logical := logicalLines .initial 1 (Text.lines source)
    endsWithNewline := source.getLast? == some '\n' }

end CodingStandard
