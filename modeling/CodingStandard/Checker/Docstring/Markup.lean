import CodingStandard.Text

namespace CodingStandard

/-!
# Fields in docstrings

A docstring documents parameters and results by fields such as `@param name:`. This module finds
the fields in a text.
-/

namespace Markup

def isWordChar (c : Char) : Bool := c.isAlphanum || c == '_'

/-- Whether a text is white space and then a colon, or starts so. -/
def startsWithColon (t : Text) : Bool := (t.dropWhile Text.isBlank).head? == some ':'

/-- The name that follows a tag: white space, the name, white space, a colon. -/
def fieldName? (t : Text) : Option Text :=
  let body := t.dropWhile Text.isBlank
  let name := body.takeWhile isWordChar
  if t.head?.any Text.isBlank && !name.isEmpty && startsWithColon (body.drop name.length) then
    some name
  else none

def fieldNames (tag : Text) : Text → List Text
  | [] => []
  | c :: t => ((Text.after? tag (c :: t)).bind fieldName?).toList ++ fieldNames tag t

/-- Whether a name is documented by a field of a tag. -/
def documents (tag : String) (value : Text) (name : String) : Bool :=
  (fieldNames tag.toList value).contains name.toList

/-- Whether a tag and a colon, with white space between them, occur in a text. -/
def hasTag (tag : Text) : Text → Bool
  | [] => false
  | c :: t => (Text.after? tag (c :: t)).any startsWithColon || hasTag tag t

def hasReturn (value : Text) : Bool :=
  hasTag "@return".toList value || hasTag "@returns".toList value

def hasReturnType (value : Text) : Bool := hasTag "@rtype".toList value

/-- The tags before which a blank line stands. -/
def tags : List Text :=
  ["param", "type", "return", "returns", "rtype", "ivar", "cvar", "raise", "raises"].map
    String.toList

/-- Whether the rest of a field follows its tag: perhaps a name, and a colon. -/
def closesField (t : Text) : Bool :=
  startsWithColon ((t.dropWhile Text.isBlank).dropWhile isWordChar)

/-- Whether a line starts with a field. The field may go on beyond the line. -/
def startsWithField (t : Text) : Bool :=
  match t.dropWhile (· == ' ') with
  | '@' :: rest => tags.any fun tag => (Text.after? tag rest).any closesField
  | _ => false

/-- What precedes the first line, other than the very first one, that starts with a field; the
newline before that line is included. -/
def prose? : Text → Option Text
  | [] => none
  | c :: t =>
    if c = '\n' ∧ startsWithField t then some [c]
    else (prose? t).map (c :: ·)

/-- Whether a text ends in a blank line: its trailing white space has two newlines. -/
def endsInBlankLine (t : Text) : Bool :=
  2 ≤ ((t.reverse.takeWhile Text.isBlank).filter (· == '\n')).length

/-- Whether the first field lacks a blank line before it. -/
def lacksBlankLine (value : Text) : Bool := (prose? value).any (!endsInBlankLine ·)

end Markup

end CodingStandard
