import CodingStandard.Pattern.Regex
import Std.Data.HashMap

namespace CodingStandard

/-!
# The size of an expression

An expression is only accepted if the machine for it is small enough. The machine reads bytes: a
character outside ASCII takes several states, and a counted repetition takes the states of its
body that many times. There are two machines, one that reads forward and one that reads backward,
and both have to fit.

The sets of characters are cut into sequences of ranges of bytes. The forward machine shares the
states from which the same bytes can follow; the backward machine shares common beginnings.
-/

namespace Regex

/-- The bytes of a state. -/
def stateSize : Nat := 32

/-- The bytes of an edge that reads a byte. -/
def edgeSize : Nat := 8

/-- The bytes of an edge that reads nothing. -/
def forkSize : Nat := 4

def sizeLimit : Nat := 0xA00000

/-- A range of bytes for each byte of a character. -/
abbrev ByteRanges := List (Nat × Nat)

/-- The highest characters of one, two and three bytes. -/
def widthLimits : List Nat := [0x7F, 0x7FF, 0xFFFF]

def bytesOf (n : Nat) : List Nat :=
  if n ≤ 0x7F then [n]
  else if n ≤ 0x7FF then [0xC0 + n / 64, 0x80 + n % 64]
  else if n ≤ 0xFFFF then [0xE0 + n / 4096, 0x80 + n / 64 % 64, 0x80 + n % 64]
  else [0xF0 + n / 262144, 0x80 + n / 4096 % 64, 0x80 + n / 64 % 64, 0x80 + n % 64]

/-- Where to cut a range of characters whose bytes are not ranges of their own: the last character
of the first part. -/
def cut? (first last : Nat) : Option Nat :=
  (widthLimits.find? fun n => first ≤ n && n < last).or <|
    if last ≤ 0x7F then none
    else [64, 4096, 262144].findSome? fun block =>
      if first / block = last / block then none
      else if first % block ≠ 0 then some ((first / block + 1) * block - 1)
      else if (last + 1) % block ≠ 0 then some (last / block * block - 1)
      else none

/-- The sequences of ranges of bytes of the characters in a range, with at most `bound` cuts one
inside the other. Numbers of surrogates are passed over. -/
def byteRanges : (bound first last : Nat) → List ByteRanges
  | 0, _, _ => []
  | bound + 1, first, last =>
    if last < first then []
    else if first < 0xE000 ∧ 0xD7FF < last then
      byteRanges bound first 0xD7FF ++ byteRanges bound 0xE000 last
    else match cut? first last with
      | some middle => byteRanges bound first middle ++ byteRanges bound (middle + 1) last
      | none => [(bytesOf first).zip (bytesOf last)]

/-- The sequences of ranges of bytes of the characters in a set. -/
def sequences (s : CharSet) : List ByteRanges :=
  s.ranges.flatMap fun (first, last) => byteRanges 32 first last

/-- The states that a set of characters takes: those of the forward machine by their edges, the
bytes they take, and the number of edges if nothing is shared but beginnings. -/
structure SetStates where
  known : Std.HashMap (List (Nat × Nat × Nat)) Nat
  bytes : Nat
  edges : Nat

/-- The state from which sequences of at most `depth` ranges follow. The state after them has the
number zero. -/
def stateOf : (depth : Nat) → List ByteRanges → SetStates → Nat × SetStates
  | 0, _, states => (0, states)
  | depth + 1, list, states =>
    let groups := list.splitBy fun a b => a.head? == b.head?
    let (edges, states) := groups.foldl (fun (edges, states) group =>
      let tails := (group.map List.tail).filter (!·.isEmpty)
      let (next, states) := if tails.isEmpty then (0, states) else stateOf depth tails states
      match group.head?.bind List.head? with
      | some (first, last) => (edges ++ [(first, last, next)], states)
      | none => (edges, states)) (([] : List (Nat × Nat × Nat)), states)
    let states := { states with edges := states.edges + groups.length }
    match states.known[edges]? with
    | some n => (n, states)
    | none =>
      let n := states.known.size + 1
      (n, { states with
        known := states.known.insert edges n
        bytes := states.bytes + stateSize + edgeSize * edges.length })

/-- The bytes that a set of characters takes in the forward machine or in the backward one. -/
def setSize (backward : Bool) (s : CharSet) : Nat :=
  match s.ranges with
  | [] => stateSize
  | ranges =>
    if ranges.length = 1 ∧ ranges.all (fun (a, b) => a = b) then
      ranges.foldl (fun n (a, _) => n + stateSize * (bytesOf a).length) 0
    else if ranges.all fun (_, b) => b ≤ 0x7F then
      2 * stateSize + edgeSize * ranges.length
    else
      let list := sequences s
      let states := (stateOf 4 list ⟨∅, 0, 0⟩).2
      if backward then 2 * stateSize + forkSize * list.length + stateSize * states.edges
      else stateSize + states.bytes

/-- Whether an expression matches no empty text. -/
def isConsuming : Regex → Bool
  | empty => false
  | chars set => !set.ranges.isEmpty
  | look _ => false
  | seq a b => a.isConsuming || b.isConsuming
  | alt a b => a.isConsuming && b.isConsuming
  | repeated a least _ => 0 < least && a.isConsuming
  | group a => a.isConsuming

def branchSize : Nat := stateSize + 2 * forkSize

/-- The bytes that an expression takes in the forward machine or in the backward one. -/
def size (backward : Bool) : Regex → Nat
  | empty => stateSize
  | chars set => setSize backward set
  | look _ => stateSize
  | seq a b => a.size backward + b.size backward
  | alt a b =>
    let fork := match b with
      | alt _ _ => forkSize
      | _ => 2 * stateSize + 2 * forkSize
    fork + a.size backward + b.size backward
  | repeated a least most =>
    let body := a.size backward
    match most with
    | none =>
      if least = 0 then
        (if a.isConsuming then branchSize + body else 2 * branchSize + stateSize + body)
      else least * body + branchSize
    | some most =>
      if least = most then least * body
      else if least = 0 ∧ most = 1 then branchSize + stateSize + body
      else
        (if least = 0 then stateSize else least * body) + stateSize +
          (most - least) * (branchSize + body)
  | group a => if backward then a.size backward else 2 * stateSize + a.size backward

/-- The bytes of what every machine has beside the expression: a part that passes over the text
before a match, and the end; the forward machine also marks the bounds of the match. -/
def frameSize (backward : Bool) : Nat :=
  let lead := branchSize + 2 * stateSize + edgeSize
  if backward then lead + stateSize else lead + 3 * stateSize

/-- Whether both machines of an expression are small enough. -/
def fits (r : Regex) : Bool :=
  [false, true].all fun backward => frameSize backward + r.size backward ≤ sizeLimit

end Regex

end CodingStandard
