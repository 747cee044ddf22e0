import CodingStandard.Syntax.Tree

namespace CodingStandard

/-!
# Cursors

A cursor is a position in a source together with the text from there on.
-/

namespace Place

/-- The place reached after a character. -/
def step (p : Place) (c : Char) : Place :=
  if c = '\n' then ⟨p.line + 1, 0⟩ else ⟨p.line, p.column + c.utf8Size⟩

end Place

structure Cursor where
  rest : Text
  /-- The number of characters before. -/
  offset : Nat
  place : Place
  deriving Repr, Inhabited

namespace Cursor

def start (source : Text) : Cursor := ⟨source, 0, ⟨1, 0⟩⟩

/-- The cursor at the end of a number of characters, or at the end of the source. -/
def advance (c : Cursor) : (count : Nat) → Cursor
  | 0 => c
  | count + 1 =>
    match c with
    | ⟨[], _, _⟩ => c
    | ⟨x :: rest, offset, place⟩ => advance ⟨rest, offset + 1, place.step x⟩ count

/-- The text from one cursor up to a later one. -/
def textTo (c stop : Cursor) : Text := c.rest.take (stop.offset - c.offset)

end Cursor

end CodingStandard
