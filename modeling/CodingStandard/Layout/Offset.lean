import CodingStandard.Text

namespace CodingStandard

/-!
# Byte offsets

Where a line starts in a text, and how long it is. Lines are numbered from one, and so are the
columns given to `offsetAt`. A line that the text does not have is at offset zero and empty.
-/

namespace Text

/-- The offset of a column of a line, the first of `pieces` being at offset `start`. -/
def offsetIn (start : Nat) (line column : Nat) : (pieces : List Text) → Nat
  | [] => 0
  | piece :: rest =>
    match line with
    | 0 => 0
    | 1 => start + (column - 1)
    | line + 2 => offsetIn (start + byteLength piece) (line + 1) column rest

def offsetAt (t : Text) (line column : Nat) : Nat := offsetIn 0 line column (pieces t)

/-- The byte length of a line without its terminator. -/
def lineLength (t : Text) (line : Nat) : Nat :=
  match line with
  | 0 => 0
  | line + 1 => (((lines t)[line]?).map byteLength).getD 0

end Text

end CodingStandard
