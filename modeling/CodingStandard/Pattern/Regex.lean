import CodingStandard.Text.CharSet

namespace CodingStandard

/-!
# Regular expressions

`Regex.matchesIn` asks whether an expression matches anywhere in a text. Which of several matches
is preferred plays no part, so greedy and lazy repetition are the same.

Expressions are put together by `append`, `choice` and `times`, which leave out what adds nothing.
-/

/-- A place at which a word starts, stops or does neither. -/
inductive WordEdge where
  | some
  | none
  | start
  | stop
  /-- No word goes on here from before. -/
  | startHalf
  /-- No word goes on from here. -/
  | stopHalf
  deriving DecidableEq, Repr

/-- A condition on a place in a text. -/
inductive Look where
  | textStart
  | textEnd
  /-- The start of a line, which a carriage return may end too. -/
  | lineStart (heedsReturns : Bool)
  | lineEnd (heedsReturns : Bool)
  /-- The edge of a word of these characters. -/
  | word (edge : WordEdge) (letters : CharSet)
  deriving DecidableEq, Repr

inductive Regex where
  | empty
  | chars (set : CharSet)
  | look (look : Look)
  | seq (a b : Regex)
  | alt (a b : Regex)
  /-- From `least` to `most` matches in a row. -/
  | repeated (a : Regex) (least : Nat) (most : Option Nat)
  /-- A group that can be referred to. -/
  | group (a : Regex)
  deriving DecidableEq, Repr

/-- A place in a text: how many characters are before it, the last of them, and the text after
it. -/
structure Spot where
  index : Nat
  before : Option Char
  rest : Text
  deriving DecidableEq, Repr

namespace Spot

/-- The spot behind the next character, if that is in a set. -/
def step? (set : CharSet) (s : Spot) : Option Spot :=
  match s.rest with
  | c :: rest => if set.has c then some ⟨s.index + 1, some c, rest⟩ else none
  | [] => none

/-- The spots from one on to the end of the text. -/
def onwards (index : Nat) (before : Option Char) : Text → List Spot
  | [] => [⟨index, before, []⟩]
  | c :: t => ⟨index, before, c :: t⟩ :: onwards (index + 1) (some c) t

def allOf (t : Text) : List Spot := onwards 0 none t

def union : List Spot → List Spot → List Spot
  | [], t => t
  | s, [] => s
  | a :: s, b :: t =>
    if a.index < b.index then a :: union s (b :: t)
    else if b.index < a.index then b :: union (a :: s) t
    else a :: union s t
termination_by s t => s.length + t.length

def diff : List Spot → List Spot → List Spot
  | [], _ => []
  | s, [] => s
  | a :: s, b :: t =>
    if a.index < b.index then a :: diff s (b :: t)
    else if b.index < a.index then diff (a :: s) t
    else diff s t
termination_by s t => s.length + t.length

end Spot

namespace Look

/-- Whether a word starts, stops or does neither, by what is before and what is after. -/
def atEdge (edge : WordEdge) (before after : Bool) : Bool :=
  match edge with
  | .some => before != after
  | .none => before == after
  | .start => !before && after
  | .stop => before && !after
  | .startHalf => !before
  | .stopHalf => !after

def holds (l : Look) (s : Spot) : Bool :=
  match l with
  | textStart => s.before.isNone
  | textEnd => s.rest.isEmpty
  | lineStart false => s.before.all (· == '\n')
  | lineStart true =>
    s.before.all fun c => c == '\n' || (c == '\r' && s.rest.head? != some '\n')
  | lineEnd false => s.rest.head?.all (· == '\n')
  | lineEnd true =>
    s.rest.head?.all fun c => c == '\r' || (c == '\n' && s.before != some '\r')
  | word edge letters => atEdge edge (s.before.any letters.has) (s.rest.head?.any letters.has)

end Look

namespace Regex

/-- The spots reached by up to `most` steps: those found before, and those that steps lead to from
the spots found last. -/
def reach (step : List Spot → List Spot) : (most : Nat) → (last found : List Spot) → List Spot
  | 0, _, found => found
  | most + 1, last, found =>
    let fresh := Spot.diff (step last) found
    if fresh.isEmpty then found else reach step most fresh (Spot.union found fresh)

/-- The spots reached by exactly `count` steps. A step that leads back to the same spots is the last
one that matters. -/
def iterate (step : List Spot → List Spot) : (count : Nat) → List Spot → List Spot
  | 0, spots => spots
  | count + 1, spots =>
    let next := step spots
    if next.map (·.index) = spots.map (·.index) then spots else iterate step count next

/-- Whether two matches in a row are one match, and no characters are one too. -/
def isClosed : Regex → Bool
  | empty => true
  | repeated _ 0 none => true
  | group a => a.isClosed
  | _ => false

/-- How many spots there are from the first one of a list in order to the end of the text. -/
def extent (spots : List Spot) : Nat := spots.head?.elim 0 (·.rest.length + 1)

/-- The spots at which a match that starts at one of some spots can end. Lists of spots are in order
and without repetition, so that no spot is looked at twice. -/
def ends : Regex → List Spot → List Spot
  | empty, spots => spots
  | chars set, spots => spots.filterMap (Spot.step? set)
  | look l, spots => spots.filter l.holds
  | seq a b, spots => b.ends (a.ends spots)
  | alt a b, spots => Spot.union (a.ends spots) (b.ends spots)
  | repeated a least most, spots =>
    let start := iterate a.ends least spots
    let most := most.elim (extent start) (· - least)
    reach a.ends (if a.isClosed then min most 1 else most) start start
  | group a, spots => a.ends spots

def matchesIn (r : Regex) (t : Text) : Bool := !(r.ends (Spot.allOf t)).isEmpty

def append : Regex → Regex → Regex
  | empty, b => b
  | a, empty => a
  | a, b => seq a b

/-- The set of an expression that matches one character. -/
def set? : Regex → Option CharSet
  | chars set => some set
  | _ => none

/-- The expressions that an expression is a choice of. -/
def branches : Regex → List Regex
  | alt a b => a.branches ++ b.branches
  | r => [r]

/-- One of several expressions; if each matches one character, so does the result. -/
def choice (list : List Regex) : Regex :=
  let list := list.flatMap branches
  match list.mapM set? with
  | some sets => chars (sets.foldl .union .empty)
  | none =>
    match list.reverse with
    | [] => chars .empty
    | last :: others => others.foldl (fun r b => alt b r) last

def isOnlyEmpty : Regex → Bool
  | empty => true
  | chars _ => false
  | look _ => true
  | seq a b => a.isOnlyEmpty && b.isOnlyEmpty
  | alt a b => a.isOnlyEmpty && b.isOnlyEmpty
  | repeated a _ _ => a.isOnlyEmpty
  | group a => a.isOnlyEmpty

/-- Several matches of an expression in a row. Of one that matches the empty text only, a single
match does as well as many. -/
def times (a : Regex) (least : Nat) (most : Option Nat) : Regex :=
  let (least, most) := if a.isOnlyEmpty then (min least 1, some (min (most.getD 1) 1))
    else (least, most)
  if most = some 0 then empty
  else if least = 1 ∧ most = some 1 then a
  else repeated a least most

end Regex

end CodingStandard
