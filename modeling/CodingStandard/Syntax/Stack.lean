import CodingStandard.Syntax.Reading

namespace CodingStandard

/-!
# Stacks with shared parts

Where several actions are possible, the parser follows all of them, each in a version of the
stack. The versions share what they have in common: a node of the stack can have several links,
each with a reading, to the nodes below it. Versions in the same state at the same position are
merged into one, whose top node has the links of both.

Nodes are known by their numbers. The node with number zero is the bottom.
-/

/-- A way down from a node of the stack. -/
structure Link where
  node : Nat
  reading : Reading
  deriving Inhabited

structure StackNode where
  state : Nat
  cursor : Cursor
  links : List Link
  /-- The highest sum of preferences on a way down. -/
  preference : Int
  deriving Inhabited

inductive VersionStatus where
  | active
  /-- Nothing can be done with the next token. -/
  | paused
  /-- The version has come to its end or has turned into others. -/
  | halted
  deriving DecidableEq, Repr, Inhabited

/-- A version of the stack: its top node and the nesting there. -/
structure Version where
  node : Nat
  nesting : Nesting
  status : VersionStatus
  deriving Inhabited

structure Stack where
  nodes : Array StackNode
  versions : Array Version
  deriving Inhabited

namespace Stack

def initial (source : Text) : Stack :=
  ⟨#[⟨0, .start source, [], 0⟩], #[⟨0, .initial, .active⟩]⟩

def linkLimit : Nat := 8

/-- The most ways down that are followed at a time. -/
def walkLimit : Nat := 64

def node (s : Stack) (n : Nat) : StackNode := s.nodes.getD n default

def version (s : Stack) (v : Nat) : Version := s.versions.getD v default

def top (s : Stack) (v : Nat) : StackNode := s.node (s.version v).node

def setStatus (s : Stack) (v : Nat) (status : VersionStatus) : Stack :=
  { s with versions := s.versions.modify v fun x => { x with status := status } }

def setNesting (s : Stack) (v : Nat) (nesting : Nesting) : Stack :=
  { s with versions := s.versions.modify v fun x => { x with nesting := nesting } }

def drop (s : Stack) (v : Nat) : Stack := { s with versions := s.versions.eraseIdxIfInBounds v }

/-- Puts a reading on top of a version, which gets to a state. -/
def push (s : Stack) (v : Nat) (r : Reading) (state : Nat) : Stack :=
  let below := (s.version v).node
  let preference := (s.node below).preference + r.preference
  let number := s.nodes.size
  { nodes := s.nodes.push ⟨state, r.stop, [⟨below, r⟩], preference⟩
    versions := s.versions.modify v fun x => { x with node := number } }

/-- Whether two nodes are in the same state at the same position. -/
def areAlike (s : Stack) (a b : Nat) : Bool :=
  (s.node a).state == (s.node b).state && (s.node a).cursor.offset == (s.node b).cursor.offset

/-- The preference on the way down through a link. -/
def preferenceOf (s : Stack) (l : Link) : Int := (s.node l.node).preference + l.reading.preference

/-- Raises the preference of a node to that of one of its links. -/
def raise (s : Stack) (n : Nat) (l : Link) : Stack :=
  let preference := s.preferenceOf l
  { s with nodes := s.nodes.modify n fun x => { x with preference := max x.preference preference } }

/-- The first of some links that makes another one unnecessary: it has a like reading and leads to
the same node or to one that is alike. -/
def covering? (s : Stack) (links : List Link) (l : Link) : Option Nat :=
  links.findIdx? fun k => k.reading.isLike l.reading &&
    (k.node == l.node || s.areAlike k.node l.node)

/-- Adds a link to a node. If a link with a like reading leads to the same node, the reading with
the higher preference is kept; if it leads to a node that is alike, the nodes below are merged. -/
def addLink : (bound : Nat) → Stack → (n : Nat) → Link → Stack
  | 0, s, _, _ => s
  | bound + 1, s, n, l =>
    if l.node = n then s
    else
      let links := (s.node n).links
      match s.covering? links l with
      | some i =>
        let known := (links.getD i default)
        if known.node = l.node then
          if known.reading.preference < l.reading.preference then
            let preference := s.preferenceOf l
            { s with nodes := s.nodes.modify n fun x =>
                { x with links := x.links.set i l, preference := preference } }
          else s
        else
          ((s.node l.node).links.foldl (fun s m => addLink bound s known.node m) s).raise n l
      | none =>
        if links.length = linkLimit then s
        else
          { s with nodes := s.nodes.modify n fun x => { x with links := x.links ++ [l] } }.raise n l

def canMerge (s : Stack) (a b : Nat) : Bool :=
  let x := s.version a
  let y := s.version b
  x.status == .active && y.status == .active && s.areAlike x.node y.node && x.nesting == y.nesting

/-- Merges the second version into the first, if that is possible. -/
def merge? (bound : Nat) (s : Stack) (a b : Nat) : Option Stack :=
  if s.canMerge a b then
    let into := (s.version a).node
    some (((s.top b).links.foldl (fun s l => addLink bound s into l) s).drop b)
  else none

/-- A way down that has been followed to a node, with the readings on it and the number of these
that are not extras. -/
structure Walk where
  node : Nat
  readings : List Reading
  count : Nat

/-- A node that ways down lead to, with the readings on each of them. -/
structure Fork where
  node : Nat
  readings : List (List Reading)

/-- Walks that have come to their end, walks that go on and walks that branch off. -/
structure Walks where
  ended : List Walk
  going : List Walk
  branched : List Walk

def Walk.down (w : Walk) (l : Link) : Walk :=
  ⟨l.node, l.reading :: w.readings, if l.reading.isExtra then w.count else w.count + 1⟩

/-- Takes one walk one step further; `isDone` says which walks have come to their end. -/
def stepDown (s : Stack) (isDone : Walk → Bool) (total : Nat) (ws : Walks) (w : Walk) : Walks :=
  if isDone w then { ws with ended := ws.ended ++ [w] }
  else match (s.node w.node).links with
    | [] => ws
    | first :: others =>
      let room := walkLimit - (total + ws.branched.length)
      ⟨ws.ended, ws.going ++ [w.down first], ws.branched ++ (others.take room).map w.down⟩

/-- Follows walks to their ends, in at most as many rounds as given. -/
def follow (s : Stack) (isDone : Walk → Bool) : (rounds : Nat) → List Walk → List Walk
  | 0, _ => []
  | rounds + 1, walks =>
    if walks.isEmpty then []
    else
      let ws := walks.foldl (s.stepDown isDone walks.length) ⟨[], [], []⟩
      ws.ended ++ follow s isDone rounds (ws.going ++ ws.branched)

/-- Sorts walks by the node that they lead to, in the order in which these are reached. -/
def forks (walks : List Walk) : List Fork :=
  walks.foldl (fun found w =>
    if found.any (·.node == w.node) then
      found.map fun f =>
        if f.node = w.node then { f with readings := f.readings ++ [w.readings] } else f
    else found ++ [⟨w.node, [w.readings]⟩]) []

/-- The ways down from a version over a number of readings that are not extras. -/
def waysDown (bound : Nat) (s : Stack) (v count : Nat) : List Fork :=
  forks (s.follow (fun w => w.count == count) bound [⟨(s.version v).node, [], 0⟩])

def waysToBottom (bound : Nat) (s : Stack) (v : Nat) : List Fork :=
  forks (s.follow (fun w => (s.node w.node).links.isEmpty) bound [⟨(s.version v).node, [], 0⟩])

end Stack

end CodingStandard
