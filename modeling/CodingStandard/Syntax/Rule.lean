import CodingStandard.Syntax.Category

namespace CodingStandard

/-!
# Rules of a grammar

A rule says what a category is made of: words and marks, tokens of a class, other categories, and
sequences, choices and repetitions of these. Where two readings of a source compete, the one with
the higher rank wins while it is read; with equal ranks the side decides, and readings that are
both possible to the end are told apart by preference.
-/

/-- The classes of tokens that are not words or marks of the grammar. -/
inductive Lexeme where
  /-- The end of the source. -/
  | finish
  | comment
  /-- A backslash and the newline after it. -/
  | continuation
  | identifier
  | integer
  | float
  /-- The end of a logical line. -/
  | newline
  | indent
  | dedent
  | stringStart
  /-- Plain text in a string. -/
  | stringText
  /-- A doubled brace in a format string. -/
  | braceEscape
  | stringEnd
  /-- A backslash and what it stands for in a string. -/
  | escape
  /-- A backslash in a string that stands for itself. -/
  | backslash
  /-- The letter after an exclamation mark in a format string. -/
  | conversion
  | formatText
  deriving DecidableEq, Repr

def Lexeme.count : Nat := Lexeme.formatText.ctorIdx + 1

/-- On which side operators of one rank group. -/
inductive Side where
  | left
  | right
  deriving DecidableEq, Hashable, Repr

/-- A remark on a rule that leaves what it matches as it is. -/
inductive Remark where
  /-- The rank that settles between readings while they are read. -/
  | rank (rank : Int)
  | side (side : Side)
  /-- The preference among readings of the whole. -/
  | prefer (preference : Int)
  /-- The kind of node that is shown in place of the usual one. -/
  | shownAs (kind : TreeKind)
  | inRole (role : Role)
  deriving DecidableEq, Repr

inductive Rule where
  | nothing
  | literal (text : String)
  | lexeme (lexeme : Lexeme)
  | category (category : Category)
  | seq (rules : List Rule)
  | choice (rules : List Rule)
  /-- The rule once or more often. -/
  | many1 (rule : Rule)
  | remark (remark : Remark) (rule : Rule)
  deriving Repr

namespace Rule

instance : Coe String Rule := ⟨literal⟩

instance : Coe Lexeme Rule := ⟨lexeme⟩

instance : Coe Category Rule := ⟨category⟩

def maybe (r : Rule) : Rule := choice [r, nothing]

def many (r : Rule) : Rule := choice [many1 r, nothing]

/-- The rule once or more often, with a mark in between. -/
def separated (mark : String) (r : Rule) : Rule := seq [r, many (seq [literal mark, r])]

def commas (r : Rule) : Rule := separated "," r

def ranked (rank : Int) (r : Rule) : Rule := remark (.rank rank) r

def leftward (rank : Int) (r : Rule) : Rule := remark (.rank rank) (remark (.side .left) r)

def rightward (rank : Int) (r : Rule) : Rule := remark (.rank rank) (remark (.side .right) r)

def preferred (preference : Int) (r : Rule) : Rule := remark (.prefer preference) r

def shownAs (kind : TreeKind) (r : Rule) : Rule := remark (.shownAs kind) r

def inRole (role : Role) (r : Rule) : Rule := remark (.inRole role) r

end Rule

end CodingStandard
