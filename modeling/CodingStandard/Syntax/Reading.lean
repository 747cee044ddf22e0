import CodingStandard.Syntax.Automaton
import CodingStandard.Syntax.Token

namespace CodingStandard

/-!
# Readings

A reading of a stretch of source is a token, or a production with readings of its steps. Comments
and joined lines stand between the steps as extras. Two readings of the same stretch are told
apart by preference, and then by an order on what they consist of.
-/

inductive Reading where
  | token (token : Token) (isExtra : Bool)
  | phrase (production head : Nat) (preference : Int) (before : Nat) (start stop : Cursor)
      (children : List Reading)
  deriving Repr, Inhabited

namespace Reading

/-- Whether a reading stands between the steps of a production. -/
def isExtra : Reading → Bool
  | token _ isExtra => isExtra
  | phrase .. => false

/-- The number of characters before the gap in front of it. -/
def before : Reading → Nat
  | token t _ => t.before
  | phrase _ _ _ before _ _ _ => before

def start : Reading → Cursor
  | token t _ => t.start
  | phrase _ _ _ _ start _ _ => start

def stop : Reading → Cursor
  | token t _ => t.stop
  | phrase _ _ _ _ _ stop _ => stop

/-- The sum of the preferences of the productions in it. -/
def preference : Reading → Int
  | token .. => 0
  | phrase _ _ preference _ _ _ _ => preference

/-- The readings of its steps, with extras. -/
def children : Reading → List Reading
  | token .. => []
  | phrase _ _ _ _ _ _ children => children

def symbol : Reading → Symbol
  | token t _ => .terminal t.terminal
  | phrase _ head _ _ _ _ _ => .nonterminal head

/-- The nesting after it, for a token that hangs on the nesting. -/
def nesting : Reading → Option Nesting
  | token t _ => t.nesting
  | phrase .. => none

/-- The reading of a production; one without steps is read at a cursor. -/
def ofProduction (number : Nat) (p : Production) (children : List Reading) (cursor : Cursor) :
    Reading :=
  let preference := children.foldl (fun n c => n + c.preference) p.preference
  match children, children.getLast? with
  | first :: _, some last =>
    phrase number p.head preference first.before first.start last.stop children
  | _, _ => phrase number p.head preference cursor.offset cursor cursor children

/-- Whether two readings of the same stretch need not be told apart. -/
def isLike (a b : Reading) : Bool :=
  a.symbol == b.symbol && a.isExtra == b.isExtra &&
    a.start.offset - a.before == b.start.offset - b.before &&
    a.stop.offset - a.start.offset == b.stop.offset - b.start.offset &&
    a.children.length == b.children.length && a.nesting == b.nesting

/-- The order of symbols: terminals come before nonterminals. -/
def compareSymbols : Symbol → Symbol → Ordering
  | .terminal a, .terminal b => compare a b
  | .terminal _, .nonterminal _ => .lt
  | .nonterminal _, .terminal _ => .gt
  | .nonterminal a, .nonterminal b => compare a b

mutual

/-- The order of readings: by symbol, by the number of children and then by these. -/
def order : Reading → Reading → Ordering
  | phrase _ a _ _ _ _ xs, phrase _ b _ _ _ _ ys =>
    (compare a b).then ((compare xs.length ys.length).then (orderAll xs ys))
  | phrase .., token .. => .gt
  | token .., phrase .. => .lt
  | token t _, token u _ => compare t.terminal u.terminal

def orderAll : List Reading → List Reading → Ordering
  | x :: xs, y :: ys => (x.order y).then (orderAll xs ys)
  | _, _ => .eq

end

/-- Whether a reading is taken in place of an earlier one: it has the higher preference, or the
same and comes first in the order. -/
def beats (a b : Reading) : Bool :=
  b.preference < a.preference || (a.preference == b.preference && a.order b == .lt)

/-- The kinds of tokens that are shown in a tree. -/
def lexemeKind? : Lexeme → Option TreeKind
  | .comment => some .comment
  | .continuation => some .continuation
  | .identifier => some .identifier
  | .integer => some .integer
  | .float => some .float
  | .stringStart => some .other
  | .stringEnd => some .other
  | .braceEscape => some .other
  | .escape => some .other
  | .conversion => some .other
  | _ => none

/-- The kind of a word or mark: some words and marks are values. -/
def literalKind (text : String) : TreeKind :=
  if ["True", "False", "None", "..."].contains text then .other else .token

def tokenKind? (p : Productions) (terminal : Nat) : Option TreeKind :=
  if terminal < Lexeme.count then lexemeKind? (.ofNat terminal)
  else p.literals[terminal - Lexeme.count]?.map literalKind

/-- The kind of a phrase in a tree; repetitions are not shown. -/
def phraseKind? (head : Nat) : Option TreeKind :=
  if head < Category.count then (Category.ofNat head).kind? else none

/-- Gives a role to a tree that has none. -/
def inheritRole (role : Role) : Tree → Tree
  | .node kind own place text children =>
    if own = .plain ∧ kind ≠ .comment ∧ kind ≠ .continuation then
      .node kind role place text children
    else .node kind own place text children

mutual

/-- The trees that a reading shows, as a kind of node and in a role that its production gives it.
What is not shown itself passes its role on to what it shows. -/
def trees (p : Productions) (shownAs : Option TreeKind) (role : Role) : Reading → List Tree
  | token t _ =>
    match shownAs.or (tokenKind? p t.terminal) with
    | some kind => [.node kind role t.start.place (t.start.textTo t.stop) []]
    | none => []
  | phrase number head _ _ start stop children =>
    let inner := treesOfSteps p (p.list[number]?.elim [] (·.steps.toList)) children
    match shownAs.or (phraseKind? head) with
    | some kind => [.node kind role start.place (start.textTo stop) inner]
    | none => inner.map (inheritRole role)

/-- The trees that the readings of steps show; extras take no step. -/
def treesOfSteps (p : Productions) : List Step → List Reading → List Tree
  | _, [] => []
  | steps, token t true :: rest => (token t true).trees p none .plain ++ treesOfSteps p steps rest
  | step :: steps, x :: rest => x.trees p step.shownAs step.role ++ treesOfSteps p steps rest
  | [], x :: rest => x.trees p none .plain ++ treesOfSteps p [] rest

end

end Reading

end CodingStandard
