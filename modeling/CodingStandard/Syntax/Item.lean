import CodingStandard.Syntax.Production
import Std.Data.HashMap

namespace CodingStandard

/-!
# Items

An item is a production that has been read up to some step. Items that agree on what is left to
read, on the node that will be made and on the rank of the step read last are one item, whatever
symbols have been read. Items are numbered: those of which less has been read come first, and
then the order of the productions counts.

Beside the items stand two tables about them. `firsts` gives the terminals that a nonterminal can
start with. `openings` gives the items that have to be considered where a nonterminal is expected,
each with the terminals that can follow it.
-/

/-- A set of terminals. The language has fewer than 128 of them, so two words hold a bit for
each. -/
structure TokenSet where
  low : UInt64
  high : UInt64
  deriving DecidableEq, Hashable, Repr, Inhabited

namespace TokenSet

def empty : TokenSet := ⟨0, 0⟩

def single (terminal : Nat) : TokenSet :=
  if terminal < 64 then ⟨1 <<< terminal.toUInt64, 0⟩
  else ⟨0, 1 <<< (terminal - 64).toUInt64⟩

def union (s t : TokenSet) : TokenSet := ⟨s.low ||| t.low, s.high ||| t.high⟩

def inter (s t : TokenSet) : TokenSet := ⟨s.low &&& t.low, s.high &&& t.high⟩

def has (s : TokenSet) (terminal : Nat) : Bool := s.inter (single terminal) != empty

end TokenSet

/-- A production read up to some step. -/
structure Item where
  production : Nat
  head : Nat
  dot : Nat
  /-- The rank and the side of the step read last. -/
  rank : Int
  side : Option Side
  /-- The steps left to read. -/
  left : List Symbol
  deriving Repr

/-- What tells items apart. -/
structure ItemKey where
  head : Nat
  dot : Nat
  preference : Int
  rank : Option Int
  side : Option Side
  read : List (Option TreeKind × Role)
  left : List Step
  deriving DecidableEq, Hashable

def Production.keyAt (p : Production) (dot : Nat) : ItemKey :=
  let last := (p.steps.toList.take dot).getLast?
  { head := p.head
    dot := dot
    preference := p.preference
    rank := last.bind (·.rank)
    side := last.bind (·.side)
    read := (p.steps.toList.take dot).map fun s => (s.shownAs, s.role)
    left := p.steps.toList.drop dot }

def Production.symbol? (p : Production) (n : Nat) : Option Symbol := p.steps[n]?.map (·.symbol)

def Production.itemAt (p : Production) (number dot : Nat) : Item :=
  let last := (p.steps.toList.take dot).getLast?
  { production := number
    head := p.head
    dot := dot
    rank := (last.bind (·.rank)).getD 0
    side := last.bind (·.side)
    left := (p.steps.toList.drop dot).map (·.symbol) }

/-- Items that have been numbered. -/
structure Numbering where
  items : Array Item
  known : Std.HashMap ItemKey Nat
  /-- The item of a production and a number of steps read. -/
  places : Std.HashMap (Nat × Nat) Nat

/-- Numbers one more item, which is new or known. -/
def Numbering.add (n : Numbering) (p : Production) (number dot : Nat) : Numbering :=
  let key := p.keyAt dot
  match n.known[key]? with
  | some item => { n with places := n.places.insert (number, dot) item }
  | none =>
    let item := n.items.size
    { items := n.items.push (p.itemAt number dot)
      known := n.known.insert key item
      places := n.places.insert (number, dot) item }

/-- An item that has to be considered where a nonterminal is expected: the terminals that can
follow it there, and whether what follows the nonterminal can follow it too. -/
structure Opening where
  item : Nat
  follow : TokenSet
  inherits : Bool
  deriving Repr

structure ItemTable where
  productions : Productions
  items : Array Item
  /-- The item after the next step of an item has been read. -/
  nexts : Array Nat
  /-- The number of items of which nothing has been read. -/
  fresh : Nat
  firsts : Array TokenSet
  openings : Array (List Opening)

namespace Productions

def numbering (p : Productions) : Numbering :=
  let longest := p.list.foldl (fun n q => max n q.steps.size) 0
  (List.range (longest + 1)).foldl (fun n dot =>
    p.list.toList.zipIdx.foldl (fun n (q, number) =>
      if dot ≤ q.steps.size then n.add q number dot else n) n) ⟨#[], ∅, ∅⟩

/-- The terminals that a symbol can start with. -/
def firstOf (firsts : Array TokenSet) : Symbol → TokenSet
  | .terminal t => .single t
  | .nonterminal n => firsts.getD n .empty

/-- One round of passing on what productions can start with to their heads. -/
def passUp (p : Productions) (firsts : Array TokenSet) : Array TokenSet :=
  p.list.foldl (fun firsts q =>
    match q.symbol? 0 with
    | some s => firsts.modify q.head (.union (firstOf firsts s))
    | none => firsts) firsts

/-- Applies a function until nothing changes, for at most as many rounds as given. -/
def settle {α : Type} [DecidableEq α] (f : α → α) : (rounds : Nat) → α → α
  | 0, a => a
  | rounds + 1, a => if f a = a then a else settle f rounds (f a)

/-- What can follow each nonterminal where one of them is expected; `none` for those that do not
come up. -/
abbrev Follows := Array (Option (TokenSet × Bool))

/-- Adds what can follow a nonterminal. -/
def follow (f : Follows) (n : Nat) (set : TokenSet) (inherits : Bool) : Follows :=
  f.modify n fun known =>
    let (old, inherited) := known.getD (.empty, false)
    some (old.union set, inherited || inherits)

/-- One round of passing on what can follow to the nonterminals at the start of productions. -/
def passOn (p : Productions) (firsts : Array TokenSet) (f : Follows) : Follows :=
  p.list.foldl (fun f q =>
    match f.getD q.head none, q.symbol? 0 with
    | some (set, inherits), some (.nonterminal n) =>
      match q.symbol? 1 with
      | none => follow f n set inherits
      | some s => follow f n (firstOf firsts s) false
    | _, _ => f) f

/-- The items to consider where a nonterminal is expected. -/
def openingsOf (p : Productions) (firsts : Array TokenSet)
    (places : Std.HashMap (Nat × Nat) Nat) (n : Nat) : List Opening :=
  let follows := settle (p.passOn firsts) (2 * p.heads)
    (follow (Array.replicate p.heads none) n .empty true)
  p.list.toList.zipIdx.filterMap fun (q, number) => do
    let (set, inherits) ← follows.getD q.head none
    let item ← places[(number, 0)]?
    some ⟨item, set, inherits⟩

def itemTable (p : Productions) : ItemTable :=
  let numbering := p.numbering
  let firsts := settle p.passUp p.heads (Array.replicate p.heads .empty)
  { productions := p
    items := numbering.items
    nexts := numbering.items.map fun i =>
      numbering.places.getD (i.production, i.dot + 1) 0
    fresh := (numbering.items.filter (·.dot == 0)).size
    firsts := firsts
    openings := ((List.range p.heads).map (p.openingsOf firsts numbering.places)).toArray }

end Productions

end CodingStandard
