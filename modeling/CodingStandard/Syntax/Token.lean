import CodingStandard.Syntax.Nesting
import CodingStandard.Text.Name

namespace CodingStandard

/-!
# Tokens

The next token at some position of a source, given the tokens that are expected there. Tokens that
hang on the nesting are looked for first; then come words, numbers and marks, of which the longest
is taken. So the same characters can be different tokens in different places: a word is a keyword
only where the keyword is expected, unless it is reserved.
-/

structure Token where
  terminal : Nat
  /-- The number of characters before the gap in front of it. -/
  before : Nat
  start : Cursor
  stop : Cursor
  /-- The nesting after it, for a token that hangs on the nesting. -/
  nesting : Option Nesting
  deriving Repr, Inhabited

/-- The words and marks of the language with their terminals. -/
structure Vocabulary where
  words : Std.HashMap String Nat
  wordSet : TokenSet
  marks : List (Text × Nat)
  /-- The terminals of the brackets that close. -/
  closing : TokenSet
  except : Nat
  deriving Inhabited

namespace Vocabulary

def isWord (literal : String) : Bool := literal.toList.all fun c => c.isAlpha || c == '_'

/-- The vocabulary of literals whose terminals follow those of the classes of tokens. -/
def ofLiterals (literals : Array String) : Vocabulary :=
  let numbered := literals.toList.zipIdx Lexeme.count
  let words := numbered.filter fun (text, _) => isWord text
  let setOf := fun (list : List (String × Nat)) =>
    list.foldl (fun set (_, n) => set.union (.single n)) TokenSet.empty
  { words := Std.HashMap.ofList words
    wordSet := setOf words
    marks := (numbered.filter fun (text, _) => !isWord text).map fun (text, n) => (text.toList, n)
    closing := setOf (numbered.filter fun (text, _) => [")", "]", "\x7d"].contains text)
    except := (words.find? (·.1 == "except")).elim 0 (·.2) }

/-- The words that are never names. -/
def reserved : List String :=
  ["False", "None", "True", "and", "as", "assert", "async", "await", "break", "class", "continue",
    "def", "del", "elif", "else", "except", "finally", "for", "from", "global", "if", "import",
    "in", "is", "lambda", "nonlocal", "not", "or", "pass", "raise", "return", "try", "while",
    "with", "yield"]

end Vocabulary

/-- A token that a text may start with. Of several the one with the higher rank is taken, and of
these the longest. -/
structure Candidate where
  rank : Nat
  length : Nat
  terminal : Nat
  deriving Repr

namespace Candidate

def ofLexeme (x : Lexeme) (length : Nat) : Candidate := ⟨0, length, x.ctorIdx⟩

/-- Whether a candidate is taken in preference to an earlier one. -/
def beats (a b : Candidate) : Bool :=
  b.rank < a.rank || (a.rank == b.rank && b.length < a.length)

/-- The candidate that is taken; one without characters never is. -/
def best (list : List Candidate) : Option Candidate :=
  list.foldl (fun found c =>
    if c.length = 0 then found
    else match found with
      | none => some c
      | some b => some (if c.beats b then c else b)) none

end Candidate

namespace Token

/-- White space between tokens, invisible marks included. -/
def isSpace (c : Char) : Bool :=
  (9 ≤ c.toNat && c.toNat ≤ 13) || c == ' ' || c.toNat == 0xFEFF || c.toNat == 0x2060 ||
    c.toNat == 0x200B

/-- The number of decimal digits at the start of a text, each perhaps with an underscore. -/
def digits : Text → Nat
  | c :: '_' :: rest => if c.isDigit then 2 + digits rest else 0
  | c :: rest => if c.isDigit then 1 + digits rest else 0
  | [] => 0

/-- The length of digits of another base, each perhaps with an underscore before it. -/
def digitsOf (isDigit : Char → Bool) : Text → Nat
  | '_' :: c :: rest => if isDigit c then 2 + digitsOf isDigit rest else 0
  | c :: rest => if isDigit c then 1 + digitsOf isDigit rest else 0
  | [] => 0

def isHexDigit (c : Char) : Bool := c.isDigit || "abcdefABCDEF".toList.contains c

/-- The digits of the base that a letter after a zero announces. -/
def baseDigit? (letter : Char) : Option (Char → Bool) :=
  if letter = 'x' ∨ letter = 'X' then some isHexDigit
  else if letter = 'o' ∨ letter = 'O' then some fun c => '0' ≤ c && c ≤ '7'
  else if letter = 'b' ∨ letter = 'B' then some fun c => c == '0' || c == '1'
  else none

/-- The length of one letter of a set, if a text starts with it. -/
def letter (letters : List Char) : Text → Nat
  | c :: _ => if letters.contains c then 1 else 0
  | [] => 0

/-- The length of a whole number in decimal digits. -/
def decimal (t : Text) : Nat :=
  let n := digits t
  if n = 0 then 0 else n + letter ['l', 'L', 'j', 'J'] (t.drop n)

def integer (t : Text) : Nat :=
  match t with
  | '0' :: base :: rest =>
    match (baseDigit? base).elim 0 fun isDigit => digitsOf isDigit rest with
    | 0 => decimal t
    | n => 2 + n + letter ['l', 'L'] (rest.drop n)
  | _ => decimal t

def exponent (t : Text) : Nat :=
  let sign := letter ['+', '-'] (t.drop 1)
  let n := digits (t.drop (1 + sign))
  if letter ['e', 'E'] t = 0 ∨ n = 0 then 0 else 1 + sign + n

/-- The length of a number with a point or an exponent. -/
def float (t : Text) : Nat :=
  let whole := digits t
  let fraction := match t.drop whole with
    | '.' :: rest => if whole = 0 ∧ digits rest = 0 then 0 else 1 + digits rest
    | _ => 0
  let power := if whole + fraction = 0 then 0 else exponent (t.drop (whole + fraction))
  let n := whole + fraction + power
  if fraction + power = 0 then 0 else n + letter ['j', 'J'] (t.drop n)

def comment : Text → Nat
  | '#' :: rest => 1 + (rest.takeWhile (· != '\n')).length
  | _ => 0

/-- The length of a backslash that joins two lines, and of the end of the first. -/
def continuation : Text → Nat
  | '\\' :: '\n' :: _ => 2
  | '\\' :: '\r' :: '\n' :: _ => 3
  | '\\' :: c :: _ => if isTextEnd c then 2 else 0
  | ['\\'] => 1
  | _ => 0

def conversion : Text → Nat
  | '!' :: c :: _ => if c.isLower then 2 else 0
  | _ => 0

def formatText (t : Text) : Nat := (t.takeWhile fun c => !isBrace c && c != '\n').length

/-- The length of as many hexadecimal digits as given, or zero. -/
def hexDigits (count : Nat) (t : Text) : Nat :=
  if (t.take count).length = count ∧ (t.take count).all isHexDigit then count else 0

def escaped (t : Text) : Nat :=
  match t with
  | 'u' :: rest => after (hexDigits 4 rest)
  | 'U' :: rest => after (hexDigits 8 rest)
  | 'x' :: rest => after (hexDigits 2 rest)
  | 'N' :: '\x7b' :: rest =>
    let n := (rest.takeWhile (· != '\x7d')).length
    if n = 0 ∨ n = rest.length then 0 else n + 3
  | '\r' :: '\n' :: _ => 2
  | '\n' :: _ => 1
  | c :: _ =>
    if c.isDigit then ((t.take 3).takeWhile Char.isDigit).length
    else if "'\"abfrntv\\".toList.contains c then 1 else 0
  | [] => 0
where
  /-- The length of a letter with digits after it. -/
  after (n : Nat) : Nat := if n = 0 then 0 else n + 1

def escape : Text → Nat
  | '\\' :: rest => if escaped rest = 0 then 0 else 1 + escaped rest
  | _ => 0

def backslash : Text → Nat
  | '\\' :: _ => 1
  | _ => 0

/-- The word that a text starts with: a keyword that is expected or reserved, or a name. -/
def word? (v : Vocabulary) (expected : TokenSet) (t : Text) : Option Candidate :=
  if expected.expects .identifier || expected.inter v.wordSet != .empty then
    let text := Text.leadingName t
    if text.isEmpty then none
    else
      let name := String.ofList text
      let terminal := match v.words[name]? with
        | some n =>
          if expected.has n || Vocabulary.reserved.contains name then n
          else Lexeme.identifier.ctorIdx
        | none => Lexeme.identifier.ctorIdx
      some ⟨0, text.length, terminal⟩
  else none

/-- The tokens that a text may start with. Escapes are only looked for where no gap came before. -/
def candidates (v : Vocabulary) (expected : TokenSet) (isAtStart : Bool) (t : Text) :
    List Candidate :=
  let expectedLexeme := fun (x : Lexeme) (length : Text → Nat) (rank : Nat) =>
    if expected.expects x then [(⟨rank, length t, x.ctorIdx⟩ : Candidate)] else []
  (word? v expected t).toList ++
    (v.marks.filterMap fun (mark, n) =>
      if expected.has n && Text.startsWith t mark then some ⟨0, mark.length, n⟩ else none) ++
    expectedLexeme .integer integer 0 ++ expectedLexeme .float float 0 ++
    [.ofLexeme .comment (comment t), .ofLexeme .continuation (continuation t)] ++
    expectedLexeme .conversion conversion 0 ++ expectedLexeme .formatText formatText 1 ++
    (if isAtStart then expectedLexeme .escape escape 1 ++ expectedLexeme .backslash backslash 0
     else [])

/-- The first token of a text that does not hang on the nesting, and the number of characters
before it. -/
def find? (v : Vocabulary) (expected : TokenSet) : (skipped : Nat) → Text →
    Option (Candidate × Nat)
  | skipped, [] => if expected.expects .finish then some (.ofLexeme .finish 0, skipped) else none
  | skipped, c :: t =>
    match Candidate.best (candidates v expected (skipped == 0) (c :: t)) with
    | some found => some (found, skipped)
    | none => if isSpace c then find? v expected (skipped + 1) t else none

/-- The next token from a cursor on. A mark of the byte order at the start is passed over. -/
def next? (v : Vocabulary) (expected : TokenSet) (nesting : Nesting) (c : Cursor) :
    Option Token :=
  let origin := if c.offset = 0 ∧ c.rest.head?.any (·.toNat == 0xFEFF) then c.advance 1 else c
  let isBracketed := expected.inter v.closing != .empty
  match nesting.next? expected isBracketed (expected.has v.except) origin.rest with
  | some found =>
    let start := origin.advance found.skipped
    some ⟨found.lexeme.ctorIdx, c.offset, start, start.advance found.length, some found.nesting⟩
  | none => do
    let (found, skipped) ← find? v expected 0 origin.rest
    let start := origin.advance skipped
    some ⟨found.terminal, c.offset, start, start.advance found.length, none⟩

end Token

end CodingStandard
