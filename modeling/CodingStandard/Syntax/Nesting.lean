import CodingStandard.Syntax.Cursor
import CodingStandard.Syntax.Item

namespace CodingStandard

/-!
# Nesting

What a source is inside of at some position: indented blocks and strings that have not been
closed. Whether the end of a line, a change of the indentation, or the text or the end of a string
is the next token hangs on it, and on the tokens that are expected.

`Nesting.next?` finds such a token. `OpenQuote.part` reads on in an open string, and `Gap.read?`
reads the white space, comments and joined lines in front of the next word or mark.
-/

structure OpenQuote where
  /-- The quotation mark that closes it. -/
  mark : Char
  /-- Braces hold expressions. -/
  isFormat : Bool
  /-- Backslashes stand for themselves. -/
  isRaw : Bool
  isBytes : Bool
  /-- The mark stands three times. -/
  isTriple : Bool
  deriving DecidableEq, Repr

/-- The blocks and strings that are open, the innermost first. -/
structure Nesting where
  indents : List Nat
  strings : List OpenQuote
  /-- Whether the string opened last is a format string that has not been closed. -/
  inFormat : Bool
  deriving DecidableEq, Repr, Inhabited

/-- What reading on in an open string comes to, with the number of characters read. -/
inductive StringPart where
  | text (length : Nat)
  | closing (length : Nat)
  | nothing
  /-- The source ends, or its text does. -/
  | unfinished (length : Nat)
  deriving Repr

/-- What lies in front of the next word or mark. -/
structure Gap where
  length : Nat
  hasLineEnd : Bool
  /-- The indentation at its end. -/
  width : Nat
  /-- The indentation of its first comment. -/
  comment : Option Nat
  deriving Repr

def TokenSet.expects (s : TokenSet) (x : Lexeme) : Bool := s.has x.ctorIdx

/-- A character that ends the text of a source. -/
def isTextEnd (c : Char) : Bool := c == '\x00'

def isBrace (c : Char) : Bool := c == '\x7b' || c == '\x7d'

namespace OpenQuote

/-- The number of characters after a backslash in a raw string that belong to it. -/
def rawEscape (mark : Char) (t : Text) : Nat :=
  match t with
  | c :: rest => if c = mark ∨ c = '\\' then 1 + lineEnd rest else lineEnd t
  | [] => 0
where
  lineEnd : Text → Nat
    | '\r' :: '\n' :: _ => 2
    | '\r' :: _ => 1
    | '\n' :: _ => 1
    | _ => 0

/-- Text up to here, or nothing if there is none. -/
def textSoFar (hasText : Bool) (length : Nat) : StringPart :=
  if hasText then .text length else .nothing

/-- Reads on at the mark of a string. The text after it is given. -/
def atMark (s : OpenQuote) (hasText : Bool) (read : Nat) (t : Text) : StringPart :=
  if s.isTriple then
    match t with
    | c :: d :: _ =>
      if c = s.mark ∧ d = s.mark then (if hasText then .text read else .closing (read + 3))
      else if c = s.mark then .text (read + 2)
      else .text (read + 1)
    | [c] => if c = s.mark then .text (read + 2) else .text (read + 1)
    | [] => .text (read + 1)
  else if hasText then .text read
  else .closing (read + 1)

/-- Reads on in a string: `read` characters have been read, and `skip` more are to be passed over.
A backslash ends the text, as it may start an escape; in a raw string it never does, and in bytes
it does not before the letters of an escape that names a character. -/
def part (s : OpenQuote) : (hasText : Bool) → (read skip : Nat) → Text → StringPart
  | _, read, _, [] => .unfinished read
  | hasText, read, skip + 1, _ :: t => part s hasText (read + 1) skip t
  | hasText, read, 0, c :: t =>
    if isTextEnd c then .unfinished read
    else if s.isFormat && isBrace c then textSoFar hasText read
    else if c = '\\' then
      if s.isRaw then part s hasText (read + 1) (rawEscape s.mark t) t
      else if s.isBytes && t.head?.any (fun d => d == 'N' || d == 'u' || d == 'U') then
        part s true (read + 1) 2 t
      else textSoFar hasText read
    else if c = s.mark then s.atMark hasText read t
    else if c = '\n' ∧ hasText ∧ !s.isTriple then .nothing
    else part s true (read + 1) 0 t

end OpenQuote

namespace Gap

def empty : Gap := ⟨0, false, 0, none⟩

/-- The number of characters after a backslash that join two lines. -/
def joint? : Text → Option Nat
  | '\r' :: '\n' :: _ => some 2
  | ['\r'] => some 1
  | '\n' :: _ => some 1
  | [] => some 0
  | _ => none

/-- The length of the rest of a comment, with the end of its line. -/
def commentRest (t : Text) : Nat :=
  (t.takeWhile fun c => !isTextEnd c && c != '\n').length + 1

/-- Reads on in a gap, where `skip` more characters are to be passed over. There is none if a
comment stands on the line where the gap starts and the end of that line is of interest, or if a
backslash joins nothing. -/
def read? (heedsComments : Bool) : Gap → (skip : Nat) → Text → Option Gap
  | g, _, [] => some { g with hasLineEnd := true, width := 0 }
  | g, skip + 1, _ :: t => read? heedsComments { g with length := g.length + 1 } skip t
  | g, 0, c :: t =>
    let next := { g with length := g.length + 1 }
    if c = '\n' then read? heedsComments { next with hasLineEnd := true, width := 0 } 0 t
    else if c = ' ' then read? heedsComments { next with width := g.width + 1 } 0 t
    else if c = '\r' ∨ c = '\x0c' then read? heedsComments { next with width := 0 } 0 t
    else if c = '\t' then read? heedsComments { next with width := g.width + 8 } 0 t
    else if c = '#' ∧ heedsComments then
      if g.hasLineEnd then
        read? heedsComments { next with width := 0, comment := g.comment.or g.width }
          (commentRest t) t
      else none
    else if c = '\\' then
      match joint? t with
      | some skip => read? heedsComments next skip t
      | none => none
    else some g

end Gap

namespace Nesting

def initial : Nesting := ⟨[0], [], false⟩

/-- A token that hangs on the nesting: its class, the number of characters before it, its length,
and the nesting after it. -/
structure Found where
  lexeme : Lexeme
  skipped : Nat
  length : Nat
  nesting : Nesting
  deriving Repr

def braceEscape? (n : Nesting) (t : Text) : Option Found :=
  match t with
  | c :: d :: _ => if c = d then some ⟨.braceEscape, 0, 2, n⟩ else none
  | _ => none

def closeString (n : Nesting) : Nesting := ⟨n.indents, n.strings.tail, false⟩

def openString (n : Nesting) (s : OpenQuote) : Nesting :=
  ⟨n.indents, s :: n.strings, s.isFormat⟩

def isStringLetter (c : Char) : Bool := "fFtTrRbBuU".toList.contains c

/-- The start of a string, after `skipped` characters. -/
def stringStart? (n : Nesting) (skipped : Nat) (t : Text) : Option Found :=
  let letters := t.takeWhile isStringLetter
  let has := fun (s : String) => letters.any s.toList.contains
  let found := fun (mark : Char) (isTriple : Bool) =>
    some ⟨.stringStart, skipped, letters.length + (if isTriple then 3 else 1),
      n.openString ⟨mark, has "fFtT", has "rR", has "bB", isTriple⟩⟩
  match t.drop letters.length with
  | '\x60' :: _ => found '\x60' false
  | c :: d :: e :: _ => if isQuote c then found c (c = d ∧ d = e) else none
  | c :: _ => if isQuote c then found c false else none
  | [] => none
where
  /-- A quotation mark that may stand three times. -/
  isQuote (c : Char) : Bool := c == '\'' || c == '"'

/-- The change of the indentation, or the end of a line, that a gap with the end of a line in it
makes after `skipped` characters; the text after the gap is given. A comment that is indented as
far as the block belongs to it, so the block goes on at least up to there. -/
def layout? (n : Nesting) (expected : TokenSet) (isBracketed : Bool) (skipped : Nat) (g : Gap)
    (t : Text) : Option Found :=
  let current := n.indents.headD 0
  let startsString := expected.expects .stringStart &&
    t.head?.any fun c => c == '"' || c == '\'' || c == '\x60'
  let mayDedent := expected.expects .dedent ||
    (!expected.expects .newline && !startsString && !isBracketed)
  if expected.expects .indent && current < g.width then
    some ⟨.indent, skipped, 0, { n with indents := g.width % 0x10000 :: n.indents }⟩
  else if mayDedent && g.width < current && !n.inFormat && g.comment.all (· < current) then
    some ⟨.dedent, skipped, 0, { n with indents := n.indents.tail }⟩
  else if expected.expects .newline then some ⟨.newline, skipped, 0, n⟩
  else none

/-- The token at the end of the gap that a text starts with, after `skipped` characters. -/
def afterGap? (n : Nesting) (expected : TokenSet) (isBracketed expectsExcept : Bool)
    (skipped : Nat) (t : Text) : Option Found := do
  let heedsComments := expected.expects .indent || expected.expects .dedent ||
    expected.expects .newline || expectsExcept
  let g ← Gap.read? heedsComments .empty 0 t
  let rest := t.drop g.length
  let change := if g.hasLineEnd then n.layout? expected isBracketed skipped g rest else none
  match change with
  | some found => some found
  | none =>
    if g.comment.isNone && expected.expects .stringStart then
      n.stringStart? (skipped + g.length) rest
    else none

/-- The next token of a text, if it is one that hangs on the nesting. -/
def next? (n : Nesting) (expected : TokenSet) (isBracketed expectsExcept : Bool) (t : Text) :
    Option Found :=
  match n.strings with
  | [] => n.afterGap? expected isBracketed expectsExcept 0 t
  | s :: _ =>
    if expected.expects .braceEscape && s.isFormat && t.head?.any isBrace then n.braceEscape? t
    else if expected.expects .stringText then
      match s.part false 0 0 t with
      | .text length => some ⟨.stringText, 0, length, n⟩
      | .closing length => some ⟨.stringEnd, 0, length, n.closeString⟩
      | .nothing => none
      | .unfinished length =>
        n.afterGap? expected isBracketed expectsExcept length (t.drop length)
    else n.afterGap? expected isBracketed expectsExcept 0 t

end Nesting

end CodingStandard
