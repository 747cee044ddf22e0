import CodingStandard.Toml.Table

namespace CodingStandard

/-!
# Reading configuration files

`Toml.parse?` reads a document. It is a list of statements, each on a line of its own; arrays and
strings in triple quotes may run over several lines.
-/

namespace Toml

/-- A reader: it takes characters from the front of a text, or fails. -/
abbrev Reader := StateT Text Option

namespace Reader

/-- Whether a text can go on with this character: tabs and everything but control characters. -/
def isPlain (c : Char) : Bool := c == '\t' || (' ' ≤ c && c.toNat != 127)

/-- Whether a character may stand in a key without quotes. -/
def isBare (c : Char) : Bool := c.isAlphanum || c == '_' || c == '-'

def peek : Reader (Option Char) := fun t => some (t.head?, t)

def word (text : String) : Reader Unit := fun t => (Text.after? text.toList t).map ((), ·)

def run (p : Char → Bool) : Reader Text := fun t => some (t.takeWhile p, t.dropWhile p)

def someRun (p : Char → Bool) : Reader Text := do
  let text ← run p
  if text.isEmpty then failure else pure text

/-- What a reader takes when it is used as often as it succeeds, at most `bound` times. -/
def manyWithin {α : Type} (p : Reader α) : (bound : Nat) → Reader (List α)
  | 0 => pure []
  | bound + 1 =>
    (do let a ← p
        return a :: (← manyWithin p bound)) <|> pure []

/-- What a reader takes when it is used as often as it succeeds. It takes a character each time,
so the length of the text is bound enough. -/
def many {α : Type} (p : Reader α) : Reader (List α) := fun t => manyWithin p t.length t

/-- What a reader takes, with a separator between two of them and at least once. -/
def separated {α : Type} (mark : Reader Unit) (p : Reader α) : Reader (List α) := do
  let first ← p
  return first :: (← many (do mark; p))

def space : Reader Unit := do let _ ← run fun c => c == ' ' || c == '\t'

def newline : Reader Unit := word "\n" <|> word "\r\n"

def comment : Reader Unit := do
  word "#"
  let _ ← run isPlain

def finished : Reader Unit := fun t => if t.isEmpty then some ((), t) else none

def lineEnd : Reader Unit := do
  space
  comment <|> pure ()
  newline <|> finished

def gap : Reader Unit := do
  let _ ← many (newline <|> comment <|> do let _ ← someRun fun c => c == ' ' || c == '\t')

/-! ## Strings -/

def hexValue? (digits : Text) : Option Nat :=
  digits.foldlM (fun n d => do
    let v ←
      if d.isDigit then some (d.toNat - 48)
      else if 'a' ≤ d && d ≤ 'f' then some (d.toNat - 87)
      else if 'A' ≤ d && d ≤ 'F' then some (d.toNat - 55)
      else none
    some (n * 16 + v)) 0

def codePoint? (digits : Text) : Option Char := do
  let n ← hexValue? digits
  if n.isValidChar then some (Char.ofNat n) else none

def escaped? : Char → Option Char
  | 'b' => some '\x08'
  | 't' => some '\t'
  | 'n' => some '\n'
  | 'f' => some '\x0c'
  | 'r' => some '\r'
  | '"' => some '"'
  | '\\' => some '\\'
  | _ => none

def escape : Reader Char
  | 'u' :: t => do some (← if t.length < 4 then none else codePoint? (t.take 4), t.drop 4)
  | 'U' :: t => do some (← if t.length < 8 then none else codePoint? (t.take 8), t.drop 8)
  | c :: t => do some (← escaped? c, t)
  | [] => none

def basicChar : Reader Char
  | '"' :: _ => none
  | '\\' :: t => escape t
  | c :: t => if isPlain c then some (c, t) else none
  | [] => none

def basic : Reader Text := do
  word "\""
  let text ← many basicChar
  word "\""
  return text

def literal : Reader Text := do
  word "'"
  let text ← run fun c => isPlain c && c != '\''
  word "'"
  return text

/-- A backslash that joins a line with the next one that is not blank. -/
def fold : Reader Text := do
  word "\\"
  space
  newline
  let _ ← many (newline <|> do let _ ← someRun fun c => c == ' ' || c == '\t')
  return []

/-- The quotes before the closing ones of a string in triple quotes: two, one or none. -/
def closing (quote : String) : Reader Text :=
  (do word (quote ++ quote ++ quote ++ quote ++ quote); return (quote ++ quote).toList) <|>
    (do word (quote ++ quote ++ quote ++ quote); return quote.toList) <|>
    (do word (quote ++ quote ++ quote); return [])

/-- Succeeds where a reader fails, and takes nothing. -/
def refusing {α : Type} (p : Reader α) : Reader Unit := fun t =>
  match p t with
  | some _ => none
  | none => some ((), t)

/-- A string in triple quotes with pieces of a kind. A line end right after the opening quotes is
dropped. -/
def triple (quote : String) (piece : Reader Text) : Reader Text := do
  word (quote ++ quote ++ quote)
  newline <|> pure ()
  let pieces ← many (do
    refusing (closing quote)
    (do newline; return ['\n']) <|> (do word quote; return quote.toList) <|> piece)
  return pieces.flatten ++ (← closing quote)

def tripleBasic : Reader Text := triple "\"" (fold <|> do return [← basicChar])

def tripleLiteral : Reader Text := triple "'" (someRun fun c => isPlain c && c != '\'')

def string : Reader Toml := do
  return .string (String.ofList (← tripleBasic <|> basic <|> tripleLiteral <|> literal))

/-! ## Keys -/

def keyPart : Reader String := do
  space
  let text ← basic <|> literal <|> someRun isBare
  space
  return String.ofList text

/-- How deep values may nest, and the number of parts that no key reaches. -/
def maxDepth : Nat := 80

def key : Reader Key := do
  let parts ← separated (word ".") keyPart
  if maxDepth ≤ parts.length then failure
  return ⟨parts.dropLast, parts.getLast?.getD ""⟩

/-! ## Numbers -/

/-- Digits, with single underscores between them. -/
def digitRun (p : Char → Bool) : Reader Text := do
  let parts ← separated (word "_") (someRun p)
  return parts.flatten

/-- A sign: whether it is a minus. -/
def sign : Reader Bool :=
  (do word "-"; return true) <|> (do word "+"; return false) <|> pure false

/-- The digits of a decimal integer, which has no leading zero. -/
def wholeDigits : Reader Text := do
  match ← peek with
  | some '0' => word "0"; return ['0']
  | _ => digitRun Char.isDigit

def digitsValue (base : Nat) (digits : Text) : Nat :=
  digits.foldl (fun n d => n * base + ((hexValue? [d]).getD 0)) 0

def maxInteger : Int := 9223372036854775807

/-- An integer, if 64 bits can hold it. -/
def inRange (n : Int) : Reader Toml :=
  if -maxInteger - 1 ≤ n ∧ n ≤ maxInteger then pure (.integer n) else failure

def based (lead : String) (base : Nat) (p : Char → Bool) : Reader Toml := do
  word lead
  inRange (digitsValue base (← digitRun p))

def integer : Reader Toml := do
  let negative ← sign
  let n : Int := digitsValue 10 (← wholeDigits)
  inRange (if negative then -n else n)

def exponent : Reader Int := do
  word "e" <|> word "E"
  let negative ← sign
  let n : Int := digitsValue 10 (← digitRun Char.isDigit)
  return if negative then -n else n

def fraction : Reader Text := do
  word "."
  digitRun Char.isDigit

/-- A number with a fraction, an exponent or both. -/
def decimal : Reader Toml := do
  let negative ← sign
  let whole ← wholeDigits
  let after ← fraction <|> pure []
  let power ← exponent <|> (if after.isEmpty then failure else pure 0)
  return .decimal ⟨negative, whole ++ after, power - after.length⟩

/-- An infinity, or no number. -/
def special : Reader Toml := do
  let negative ← sign
  (do word "inf"; return .special (if negative then "-inf" else "inf")) <|>
    (do word "nan"; return .special "NaN")

def number : Reader Toml :=
  based "0x" 16 (fun c => (hexValue? [c]).isSome) <|> based "0o" 8 (fun c => '0' ≤ c && c ≤ '7') <|>
    based "0b" 2 (fun c => c == '0' || c == '1') <|> decimal <|> integer <|> special

/-! ## Values -/

def boolean : Reader Toml :=
  (do word "true"; return .boolean true) <|> (do word "false"; return .boolean false)

def array (value : Reader Toml) : Reader Toml := do
  word "["
  let items ← separated (word ",") (do gap; let v ← value; gap; return v) <|> pure []
  gap
  if !items.isEmpty then word "," <|> pure ()
  gap
  word "]"
  return .array items

def entry (value : Reader Toml) : Reader (Key × Toml) := do
  let k ← key
  word "="
  space
  return (k, ← value)

def inlineTable (value : Reader Toml) : Reader Toml := do
  word "\x7b"
  space
  let entries ← separated (word ",") (do let e ← entry value; space; return e) <|> pure []
  space
  word "\x7d"
  match ofEntries? entries with
  | some t => pure t
  | none => failure

/-- A value that nests arrays and tables less than `depth` deep. -/
def value : (depth : Nat) → Reader Toml
  | 0 => failure
  | 1 => string <|> boolean <|> number
  | depth + 2 =>
    string <|> boolean <|> number <|> array (value (depth + 1)) <|> inlineTable (value (depth + 1))

def statement : Reader Statement := do
  let s ←
    (do word "[["; let k ← key; word "]]"; return .arrayHeader k) <|>
    (do word "["; let k ← key; word "]"; return .header k) <|>
    (do let (k, v) ← entry (value maxDepth); return .entry k v)
  lineEnd
  return s

def document : Reader (List Statement) := do
  word "\uFEFF" <|> pure ()
  gap
  let statements ← many (do let s ← statement; gap; return s)
  finished
  return statements

end Reader

def parse? (t : Text) : Option Toml := do
  let (statements, _) ← Reader.document t
  ofStatements? statements

end Toml

end CodingStandard
