import CodingStandard.Text

namespace CodingStandard

/-!
# String literals

The text between the quotes of a literal. Escape sequences stay as they are written.
-/

namespace Literal

/-- The delimiters of string literals, the longer ones first. -/
def delimiters : List Text := [
  ['"', '"', '"'], ['\'', '\'', '\''], ['"'], ['\'']]

/-- What stands between two copies of a delimiter that do not overlap. -/
def between? (mark body : Text) : Option Text :=
  if 2 * mark.length ≤ body.length ∧ Text.startsWith body mark ∧ Text.endsWith body mark then
    some ((body.drop mark.length).take (body.length - 2 * mark.length))
  else none

/-- The text between the quotes of a literal, without the letters before them. A literal in
other quotes stays as it is. -/
def value (literal : Text) : Text :=
  let body := literal.dropWhile Char.isAlpha
  (delimiters.findSome? (between? · body)).getD body

def normalizeNewlines : Text → Text
  | '\r' :: '\n' :: t => '\n' :: normalizeNewlines t
  | '\r' :: t => '\n' :: normalizeNewlines t
  | c :: t => c :: normalizeNewlines t
  | [] => []

end Literal

end CodingStandard
