import CodingStandard.Text

namespace CodingStandard

/-!
# JSON output

Values are written with one item or field on a line and an indentation of two spaces for each
level. Only what must be escaped is escaped.
-/

inductive Json where
  | string (value : String)
  | number (value : Nat)
  | array (items : List Json)
  /-- The fields in the order in which they are written. -/
  | object (fields : List (String × Json))
  deriving Repr

namespace Json

def hexDigit (n : Nat) : Char := if n < 10 then Char.ofNat (48 + n) else Char.ofNat (87 + n)

def escape (c : Char) : Text :=
  match c with
  | '"' => ['\\', '"']
  | '\\' => ['\\', '\\']
  | '\n' => ['\\', 'n']
  | '\r' => ['\\', 'r']
  | '\t' => ['\\', 't']
  | '\x08' => ['\\', 'b']
  | '\x0c' => ['\\', 'f']
  | _ =>
    if c.toNat < 32 then
      ['\\', 'u', '0', '0', hexDigit (c.toNat / 16), hexDigit (c.toNat % 16)]
    else [c]

def quote (s : String) : Text := '"' :: s.toList.flatMap escape ++ ['"']

/-- The break before an item at a level. -/
def lineBreak (level : Nat) : Text := '\n' :: List.replicate (2 * level) ' '

mutual

/-- A value that stands at a level of indentation. -/
def renderAt (level : Nat) : Json → Text
  | string value => quote value
  | number value => (toString value).toList
  | array [] => ['[', ']']
  | array (item :: items) =>
    '[' :: lineBreak (level + 1) ++ item.renderAt (level + 1) ++
      renderItems (level + 1) items ++ lineBreak level ++ [']']
  | object [] => ['\x7b', '\x7d']
  | object ((key, value) :: fields) =>
    '\x7b' :: lineBreak (level + 1) ++ quote key ++ ": ".toList ++ value.renderAt (level + 1) ++
      renderFields (level + 1) fields ++ lineBreak level ++ ['\x7d']

/-- The items of an array after the first. -/
def renderItems (level : Nat) : List Json → Text
  | [] => []
  | item :: items => ',' :: lineBreak level ++ item.renderAt level ++ renderItems level items

def renderFields (level : Nat) : List (String × Json) → Text
  | [] => []
  | (key, value) :: fields =>
    ',' :: lineBreak level ++ quote key ++ ": ".toList ++ value.renderAt level ++
      renderFields level fields

end

def render (value : Json) : String := String.ofList (value.renderAt 0)

end Json

end CodingStandard
