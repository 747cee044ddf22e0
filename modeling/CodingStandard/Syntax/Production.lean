import CodingStandard.Syntax.Grammar

namespace CodingStandard

/-!
# Productions

The rules of the grammar as productions: a head and the steps that it is read in. Choices become
several productions, and a repetition becomes a symbol of its own that is made of two repetitions
or of the repeated rule. Equal repetitions share their symbol.

Symbols are numbers. The terminals are the classes of tokens and then the words and marks, in the
order in which the grammar mentions them; the nonterminals are the categories and then the
repetitions.
-/

/-- A terminal or a nonterminal by its number. -/
inductive Symbol where
  | terminal (number : Nat)
  | nonterminal (number : Nat)
  deriving DecidableEq, Hashable, Repr, Inhabited

/-- One symbol of a production with what the rule remarks on it. -/
structure Step where
  symbol : Symbol
  rank : Option Int
  side : Option Side
  shownAs : Option TreeKind
  role : Role
  deriving DecidableEq, Hashable, Repr

structure Alternative where
  steps : List Step
  preference : Int
  deriving DecidableEq, Repr

structure Production where
  head : Nat
  steps : Array Step
  preference : Int
  deriving DecidableEq, Repr

namespace Alternative

def empty : Alternative := ⟨[], 0⟩

def single (s : Symbol) : Alternative := ⟨[⟨s, none, none, none, .plain⟩], 0⟩

/-- The stronger of two preferences; the first if they are equally strong. -/
def stronger (a b : Int) : Int := if a.natAbs < b.natAbs then b else a

def append (a b : Alternative) : Alternative :=
  ⟨a.steps ++ b.steps, stronger a.preference b.preference⟩

/-- An alternative under a remark; a remark on a part of it stands. -/
def under (r : Remark) (a : Alternative) : Alternative :=
  match r with
  | .rank n => { a with steps := a.steps.map fun s => { s with rank := s.rank.or n } }
  | .side d => { a with steps := a.steps.map fun s => { s with side := s.side.or d } }
  | .prefer n => { a with preference := stronger n a.preference }
  | .shownAs k => { a with steps := a.steps.map fun s => { s with shownAs := s.shownAs.or k } }
  | .inRole r =>
    { a with
      steps := a.steps.map fun s => { s with role := if s.role = .plain then r else s.role } }

end Alternative

/-- The words, marks and repetitions met while rules are turned into alternatives. -/
structure Lexicon where
  literals : Array String
  repetitions : Array (List Alternative)
  deriving Repr

namespace Lexicon

def numberOf (l : Lexicon) (text : String) : Option Nat :=
  (l.literals.idxOf? text).map (Lexeme.count + ·)

/-- The terminal of a word or mark, which is new or known. -/
def literal (l : Lexicon) (text : String) : Symbol × Lexicon :=
  match l.numberOf text with
  | some n => (.terminal n, l)
  | none =>
    (.terminal (Lexeme.count + l.literals.size), { l with literals := l.literals.push text })

/-- The nonterminal of a repetition, which is new or known. -/
def repetition (l : Lexicon) (ways : List Alternative) : Symbol × Lexicon :=
  match l.repetitions.idxOf? ways with
  | some n => (.nonterminal (Category.count + n), l)
  | none => (.nonterminal (Category.count + l.repetitions.size),
      { l with repetitions := l.repetitions.push ways })

end Lexicon

namespace Rule

mutual

def ways : Rule → Lexicon → List Alternative × Lexicon
  | nothing, l => ([.empty], l)
  | literal text, l =>
    let (s, l) := l.literal text
    ([.single s], l)
  | lexeme x, l => ([.single (.terminal x.ctorIdx)], l)
  | category c, l => ([.single (.nonterminal c.ctorIdx)], l)
  | seq rules, l => waysOfSequence rules l
  | choice rules, l => waysOfChoice rules l
  | many1 rule, l =>
    let (inner, l) := rule.ways l
    let (s, l) := l.repetition inner
    ([.single s], l)
  | remark r rule, l =>
    let (inner, l) := rule.ways l
    (inner.map (.under r), l)

def waysOfSequence : List Rule → Lexicon → List Alternative × Lexicon
  | [], l => ([.empty], l)
  | rule :: rest, l =>
    let (first, l) := rule.ways l
    let (others, l) := waysOfSequence rest l
    (first.flatMap fun a => others.map a.append, l)

def waysOfChoice : List Rule → Lexicon → List Alternative × Lexicon
  | [], l => ([], l)
  | rule :: rest, l =>
    let (first, l) := rule.ways l
    let (others, l) := waysOfChoice rest l
    (first ++ others, l)

end

end Rule

/-- The productions of the language, with the words and marks that its terminals stand for. -/
structure Productions where
  literals : Array String
  list : Array Production
  /-- The number of nonterminals, the last of which is read only once, for the whole source. -/
  heads : Nat
  deriving Repr, Inhabited

namespace Productions

def ofCategories : List Category → Lexicon → List (List Alternative) × Lexicon
  | [], l => ([], l)
  | c :: rest, l =>
    let (ways, l) := c.rule.ways l
    let (others, l) := ofCategories rest l
    (ways.eraseDups :: others, l)

/-- The ways to read a repetition: as two of it, or as what is repeated. -/
def ofRepetition (number : Nat) (inner : List Alternative) : List Alternative :=
  let self := Alternative.single (.nonterminal (Category.count + number))
  (self.append self :: inner).eraseDups

/-- The productions of the grammar. The last one reads a whole file. -/
def ofGrammar : Productions :=
  let (categories, l) := ofCategories Category.all ⟨#[], #[]⟩
  let repetitions := l.repetitions.toList.mapIdx ofRepetition
  let whole := [Alternative.single (.nonterminal Category.file.ctorIdx)]
  let all := categories ++ repetitions ++ [whole]
  { literals := l.literals
    list := (all.mapIdx fun head ways =>
      ways.map fun a => ⟨head, a.steps.toArray, a.preference⟩).flatten.toArray
    heads := all.length }

end Productions

end CodingStandard
