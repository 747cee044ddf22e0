import CodingStandard.Syntax.Item

namespace CodingStandard

/-!
# The automaton

A state of the automaton is a set of items, each with the terminals that may come after it. For
every terminal a state has a list of actions: read it, or take what has been read for a
production. Where both are possible, the ranks decide, and then the side; what they leave
undecided stays undecided here, and the parser follows every action.
-/

/-- What can be done at a terminal. -/
inductive Action where
  | shift (state : Nat)
  /-- Take what was read last for a production. -/
  | reduce (production : Nat)
  /-- The source has been read. -/
  | accept
  deriving DecidableEq, Repr, Inhabited

structure AutomatonState where
  /-- The actions for each terminal. -/
  actions : Array (List Action)
  /-- The states after a nonterminal. -/
  gotos : List (Nat × Nat)
  /-- The terminals that have an action. -/
  expected : TokenSet
  deriving Inhabited

/-- The items that a state starts from, each with the terminals that may come after it, in the
order of their numbers. -/
structure Kernel where
  entries : List (Nat × TokenSet)
  deriving DecidableEq, Hashable

namespace Kernel

/-- Adds an item to entries in order. -/
def insert (item : Nat) (set : TokenSet) : List (Nat × TokenSet) → List (Nat × TokenSet)
  | [] => [(item, set)]
  | (i, s) :: rest =>
    if item < i then (item, set) :: (i, s) :: rest
    else if item = i then (i, s.union set) :: rest
    else (i, s) :: insert item set rest

def merge : List (Nat × TokenSet) → List (Nat × TokenSet) → List (Nat × TokenSet)
  | [], entries => entries
  | entries, [] => entries
  | (i, s) :: rest, (j, r) :: others =>
    if i < j then (i, s) :: merge rest ((j, r) :: others)
    else if j < i then (j, r) :: merge ((i, s) :: rest) others
    else (i, s.union r) :: merge rest others
termination_by a b => a.length + b.length

end Kernel

/-- The states built so far and those still to be built. -/
structure AutomatonBuilder where
  states : Array AutomatonState
  kernels : Array Kernel
  numbers : Std.HashMap Kernel Nat

namespace AutomatonBuilder

/-- The number of the state that starts from some items, which is new or known. -/
def number (b : AutomatonBuilder) (k : Kernel) : Nat × AutomatonBuilder :=
  match b.numbers[k]? with
  | some n => (n, b)
  | none =>
    let n := b.kernels.size
    (n, { b with kernels := b.kernels.push k, numbers := b.numbers.insert k n })

def numberAll : List (Nat × Kernel) → AutomatonBuilder → List (Nat × Nat) × AutomatonBuilder
  | [], b => ([], b)
  | (symbol, k) :: rest, b =>
    let (n, b) := b.number k
    let (others, b) := numberAll rest b
    ((symbol, n) :: others, b)

end AutomatonBuilder

namespace ItemTable

variable (t : ItemTable)

def terminals : Nat := Lexeme.count + t.productions.literals.size

/-- What can follow the next step of an item that is followed by `set`. -/
def followOfNext (item : Item) (set : TokenSet) : TokenSet :=
  match item.left with
  | _ :: s :: _ => Productions.firstOf t.firsts s
  | _ => set

/-- The items to consider where the next step of an item is expected. -/
def opened (item : Item) (set : TokenSet) : List (Nat × TokenSet) :=
  match item.left with
  | .nonterminal n :: _ =>
    let follow := t.followOfNext item set
    (t.openings.getD n []).map fun o =>
      (o.item, if o.inherits then o.follow.union follow else o.follow)
  | _ => []

/-- All items of a state in order, with the terminals that may come after them. -/
def closure (k : Kernel) : List (Item × Nat × TokenSet) :=
  let entries := k.entries.foldl (fun entries (i, set) =>
    match t.items[i]? with
    | some item => Kernel.merge entries (t.opened item set)
    | none => entries) k.entries
  entries.filterMap fun (i, set) => t.items[i]?.map (·, i, set)

/-- The kernels of the states after each terminal and after each nonterminal. -/
def successors (entries : List (Item × Nat × TokenSet)) :
    Array (List (Nat × TokenSet)) × Array (List (Nat × TokenSet)) :=
  entries.foldl (fun (terminals, nonterminals) (item, i, set) =>
    let next := t.nexts.getD i 0
    match item.left with
    | .terminal n :: _ => (terminals.modify n (Kernel.insert next set), nonterminals)
    | .nonterminal n :: _ => (terminals, nonterminals.modify n (Kernel.insert next set))
    | [] => (terminals, nonterminals))
    (Array.replicate t.terminals [], Array.replicate t.productions.heads [])

/-- The kernels that are not empty, with the number of their symbol. -/
def present (kernels : Array (List (Nat × TokenSet))) : List (Nat × Kernel) :=
  (kernels.foldr (fun entries (n, found) =>
    (n - 1, if entries.isEmpty then found else (n - 1, ⟨entries⟩) :: found))
    (kernels.size, [])).2

def isRepetition (n : Nat) : Bool := Category.count ≤ n && n + 1 < t.productions.heads

/-- Whether several items belong to one repetition, which then may be grouped in any way. -/
def areOneRepetition (items : List Item) : Bool :=
  match items with
  | [] => false
  | i :: rest => t.isRepetition i.head && rest.all (·.head == i.head)

/-- The action that takes an item which has been read for its production. -/
def reduction (item : Item) : Action :=
  if item.head + 1 = t.productions.heads then .accept else .reduce item.production

/-- The actions at a terminal, given the items that have been read and the state after it. -/
def actionsAt (entries : List (Item × Nat × TokenSet)) (terminal : Nat) (done : List Item)
    (shift : Option Nat) : List Action :=
  match done with
  | [] => shift.toList.map .shift
  | first :: rest =>
    let top := rest.foldl (fun n i => max n i.rank) first.rank
    let best := done.filter (·.rank == top)
    let reductions := best.map t.reduction
    match shift with
    | none => reductions
    | some state =>
      let opposed := (entries.filter fun (item, _, _) =>
        0 < item.dot && item.left.head?.any fun s =>
          (Productions.firstOf t.firsts s).has terminal).map (·.1)
      let isHigher := opposed.any fun i => top < i.rank
      let isLower := opposed.any fun i => i.rank < top
      if t.areOneRepetition (opposed ++ done) then reductions
      else if isHigher && !isLower then [.shift state]
      else if isLower && !isHigher then reductions
      else if isHigher then reductions ++ [.shift state]
      else if best.all (·.side == some .left) then reductions
      else if best.all (·.side == some .right) then [.shift state]
      else reductions ++ [.shift state]

def state (k : Kernel) (b : AutomatonBuilder) : AutomatonState × AutomatonBuilder :=
  let entries := t.closure k
  let (terminals, nonterminals) := t.successors entries
  let (shifts, b) := b.numberAll (present terminals)
  let (gotos, b) := b.numberAll (present nonterminals)
  let done := entries.filter fun (item, _, _) => item.left.isEmpty
  let reducible := done.foldl (fun set (_, _, s) => s.union set) TokenSet.empty
  let targets := shifts.foldl (fun (a : Array (Option Nat)) (n, state) => a.set! n (some state))
    (Array.replicate t.terminals none)
  let actions := targets.mapIdx fun n shift =>
    if reducible.has n then
      t.actionsAt entries n ((done.filter fun (_, _, s) => s.has n).map (·.1)) shift
    else shift.toList.map .shift
  let expected := shifts.foldl (fun set (n, _) => set.union (.single n)) reducible
  (⟨actions, gotos, expected⟩, b)

/-- Builds at most as many states as given. -/
def grow : (bound : Nat) → AutomatonBuilder → AutomatonBuilder
  | 0, b => b
  | bound + 1, b =>
    match b.kernels[b.states.size]? with
    | none => b
    | some k =>
      let (s, b) := t.state k b
      grow bound { b with states := b.states.push s }

/-- The kernel of the state in which nothing has been read. -/
def start : Kernel := ⟨[(t.fresh - 1, .single Lexeme.finish.ctorIdx)]⟩

end ItemTable

structure Automaton where
  productions : Productions
  states : Array AutomatonState
  deriving Inhabited

namespace Automaton

def bound : Nat := 20000

/-- The automaton of the grammar. The state with number zero is the one to start in. -/
def ofGrammar : Automaton :=
  let t := Productions.ofGrammar.itemTable
  { productions := t.productions
    states :=
      (t.grow bound ⟨#[], #[t.start], (∅ : Std.HashMap Kernel Nat).insert t.start 0⟩).states }

end Automaton

end CodingStandard
