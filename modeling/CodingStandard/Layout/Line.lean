import CodingStandard.Text

namespace CodingStandard

/-!
# Physical and logical lines

A physical line is a line of the source text. A logical line is a statement: one physical line,
or several that an open bracket, an open string or a final backslash joins.
-/

/-- A comment: the byte column of its `#`, and its text from there on. -/
structure Comment where
  column : Nat
  text : Text
  deriving DecidableEq, Repr

/-- A line of the source, numbered from one. -/
structure PhysicalLine where
  number : Nat
  text : Text
  comment : Option Comment
  /-- The line starts inside a string. -/
  inString : Bool
  /-- The line continues a logical line that started above. -/
  continuation : Bool
  deriving DecidableEq, Repr

namespace PhysicalLine

/-- The text before the comment, or all of it. -/
def code (line : PhysicalLine) : Text :=
  match line.comment with
  | none => line.text
  | some comment => line.text.take (line.text.length - comment.text.length)

/-- White space only, outside strings and continued lines. -/
def isBlank (line : PhysicalLine) : Bool :=
  !line.inString && !line.continuation && Text.isWhite line.text

/-- A comment with nothing but white space before it, outside strings and continued lines. -/
def isCommentOnly (line : PhysicalLine) : Bool :=
  !line.inString && !line.continuation && line.comment.isSome && Text.isWhite line.code

end PhysicalLine

/-- A statement: its code with comments removed and its lines joined by a space. -/
structure LogicalLine where
  text : Text
  start : Nat
  stop : Nat
  /-- The width of the indentation of its first line. -/
  indent : Nat
  /-- The longest run of blank lines before it; comment lines break runs. -/
  blankBefore : Nat
  deriving DecidableEq, Repr

/-- The width of the leading white space, continuing from `width`. -/
def indentWidthFrom (width : Nat) : Text → Nat
  | [] => width
  | c :: t =>
    if c = ' ' then indentWidthFrom (width + 1) t
    else if c = '\t' then indentWidthFrom ((width / 8 + 1) * 8) t
    else if c = '\x0c' then indentWidthFrom 0 t
    else width

/-- The width of the indentation: a tab moves to the next multiple of eight, and a form feed
starts again from zero. -/
def indentWidth (t : Text) : Nat := indentWidthFrom 0 t

end CodingStandard
