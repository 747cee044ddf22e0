import CodingStandard.Syntax.Stack

namespace CodingStandard

/-!
# Parsing

A source is read from left to right. In every round each version of the stack reads a token, or
pauses if it has nothing to do with it; then versions that have become alike are merged, and those
that others outdo are dropped. A source is well formed if some version reads it to its end. Of
several readings of the whole the one that beats the others is shown as a tree.

All loops carry a bound, which is chosen in `Tree.parse?` so that it is never reached.
-/

/-- An automaton with the vocabulary of its terminals. -/
structure Language where
  automaton : Automaton
  vocabulary : Vocabulary
  deriving Inhabited

/-- A source that has been read in part: the versions of the stack, and the best reading of the
whole that has been found. -/
structure Parse where
  stack : Stack
  finished : Option Reading
  deriving Inhabited

/-- What a token has led to in a version. -/
inductive Progress where
  | read
  | stuck
  /-- It comes after what has been taken for productions. The version that this has made last is
  given unless it has been merged into another. -/
  | reduced (last : Option Nat)

/-- How two versions compare. -/
inductive Comparison where
  | dropSecond
  | dropFirst
  | keepOrder
  | swap

namespace Language

variable (l : Language)

def standard : Language :=
  ⟨.ofGrammar, .ofLiterals Automaton.ofGrammar.productions.literals⟩

def state (n : Nat) : AutomatonState := l.automaton.states.getD n default

def production (n : Nat) : Production := l.automaton.productions.list.getD n ⟨0, #[], 0⟩

/-- The terminals that can stand between the steps of any production. -/
def extras : TokenSet :=
  TokenSet.union (.single Lexeme.comment.ctorIdx) (.single Lexeme.continuation.ctorIdx)

def tokenOf? (s : Stack) (v : Nat) : Option Token :=
  let top := s.top v
  Token.next? l.vocabulary ((l.state top.state).expected.union extras) (s.version v).nesting
    top.cursor

/-- The most versions that a round starts with. -/
def versionLimit : Nat := 6

/-- The most versions that there are within a round. -/
def versionPeak : Nat := versionLimit + 4

/-- Readings without the extras at their end, and these extras. -/
def splitExtras (readings : List Reading) : List Reading × List Reading :=
  let tail := readings.reverse.takeWhile Reading.isExtra
  (readings.take (readings.length - tail.length), tail.reverse)

/-- The best reading of a production among those that lead to a node, with the extras after it. -/
def bestOf (number : Nat) (cursor : Cursor) (ways : List (List Reading)) :
    Option (Reading × List Reading) :=
  (ways.map fun readings =>
    let (children, extras) := splitExtras readings
    (Reading.ofProduction number (l.production number) children cursor, extras)).foldl
    (fun best r =>
      match best with
      | none => some r
      | some b => some (if r.1.beats b.1 then r else b)) none

/-- Merges a version into the first of the versions before it that it can be merged into, other
than `but`; also says whether there is one. -/
def mergeInto (bound : Nat) (s : Stack) (v but : Nat) : Stack × Bool :=
  match (List.range v).find? fun a => a != but && s.canMerge a v with
  | some a => ((s.merge? bound a v).getD s, true)
  | none => (s, false)

/-- Puts the reading of a production on top of a version that has come down to a fork. -/
def putOn (s : Stack) (v number : Nat) (f : Stack.Fork) : Stack :=
  match l.bestOf number (s.top v).cursor f.readings with
  | none => s
  | some (reading, extras) =>
    let next := ((l.state (s.top v).state).gotos.lookup (l.production number).head).getD 0
    extras.foldl (fun s e => s.push v e next) (s.push v reading next)

/-- Completes the versions that have come down to forks, from a position on. -/
def complete (bound : Nat) (number origin peak : Nat) : List Stack.Fork → (v : Nat) → Stack → Stack
  | [], _, s => s
  | f :: rest, v, s =>
    if peak < v then complete bound number origin peak rest v (s.drop v)
    else
      let (s, isMerged) := mergeInto bound (l.putOn s v number f) v origin
      complete bound number origin peak rest (if isMerged then v else v + 1) s

/-- Takes what a version has read last for a production. The versions that this makes come after
all others. -/
def reduce (bound : Nat) (s : Stack) (v number : Nat) : Stack :=
  let forks := s.waysDown bound v (l.production number).steps.size
  let nesting := (s.version v).nesting
  let first := s.versions.size
  let peak := versionPeak + (s.versions.filter (·.status == .halted)).size
  let versions := forks.foldl (fun vs f => vs.push ⟨f.node, nesting, .active⟩) s.versions
  l.complete bound number v peak forks first { s with versions := versions }

/-- The reading of a whole source among the readings on a way down to the bottom. -/
def whole? (readings : List Reading) (cursor : Cursor) : Option Reading :=
  match readings.span Reading.isExtra with
  | (before, .phrase number _ _ _ _ _ children :: after) =>
    some (Reading.ofProduction number (l.production number) (before ++ children ++ after) cursor)
  | _ => none

/-- Takes up the readings of a version that has read the whole source. -/
def accept (bound : Nat) (p : Parse) (v : Nat) : Parse :=
  let ways := (p.stack.waysToBottom bound v).flatMap (·.readings)
  let finished := ways.foldl (fun best way =>
    match l.whole? way (p.stack.node 0).cursor, best with
    | none, best => best
    | some r, none => some r
    | some r, some b => some (if r.beats b then r else b)) p.finished
  ⟨p.stack.setStatus v .halted, finished⟩

def shift (p : Parse) (v : Nat) (t : Token) (state : Nat) (isExtra : Bool) : Parse :=
  let stack := p.stack.push v (.token t isExtra) state
  { p with stack := t.nesting.elim stack (stack.setNesting v) }

/-- Takes actions at a token in turn, until it has been read. -/
def take (bound : Nat) (v : Nat) (t : Token) : List Action → Progress → Parse → Parse × Progress
  | [], progress, p => (p, progress)
  | .shift state :: _, _, p => (shift p v t state false, .read)
  | .accept :: _, _, p => (l.accept bound p v, .read)
  | .reduce number :: rest, progress, p =>
    let count := p.stack.versions.size
    let stack := l.reduce bound p.stack v number
    let last := match progress with
      | .reduced last => last
      | _ => none
    let last := if count < stack.versions.size then some count else last
    take bound v t rest (.reduced last) { p with stack := stack }

/-- The token as a name, if it is a word that is not reserved and a name can be read. -/
def asName? (s : AutomatonState) (t : Token) : Option Token :=
  let name := Lexeme.identifier.ctorIdx
  if l.vocabulary.wordSet.has t.terminal && s.expected.has name &&
      !Vocabulary.reserved.contains (String.ofList (t.start.textTo t.stop)) then
    some { t with terminal := name }
  else none

/-- Lets a version do what it can with a token. -/
def proceed : (bound : Nat) → Parse → (v : Nat) → Token → Parse
  | 0, p, v, _ => { p with stack := p.stack.setStatus v .paused }
  | bound + 1, p, v, t =>
    let number := (p.stack.top v).state
    let state := l.state number
    match state.actions.getD t.terminal [] with
    | [] =>
      if extras.has t.terminal then shift p v t number true
      else match l.asName? state t with
        | some name => proceed bound p v name
        | none => { p with stack := p.stack.setStatus v .paused }
    | actions =>
      match l.take bound v t actions .stuck p with
      | (p, .reduced (some last)) =>
        let made := p.stack.version last
        let stack := p.stack.drop last
        proceed bound { p with stack :=
          { stack with versions := stack.versions.modify v fun _ => made } } v t
      | (p, .reduced none) => { p with stack := p.stack.setStatus v .halted }
      | (p, _) => p

/-- Lets a version go on by one token. -/
def advance (bound : Nat) (p : Parse) (v : Nat) : Parse :=
  match l.tokenOf? p.stack v with
  | none => { p with stack := p.stack.setStatus v .paused }
  | some t => l.proceed bound p v t

/-- Lets a version go on until it is past the other ones, or level with them if there is one before
it. Also gives the position that has been reached. -/
def catchUp : (bound : Nat) → Parse → (v reached : Nat) → Parse × Nat
  | 0, p, _, reached => (p, reached)
  | bound + 1, p, v, reached =>
    if v < p.stack.versions.size && (p.stack.version v).status == .active then
      let p := l.advance bound p v
      let offset := (p.stack.top v).cursor.offset
      if v < p.stack.versions.size && (reached < offset || (0 < v && offset == reached)) then
        (p, offset)
      else catchUp bound p v reached
    else (p, reached)

/-- Lets all versions go on, from a position in their list on. -/
def goOn : (bound : Nat) → Parse → (v reached : Nat) → Parse × Nat
  | 0, p, _, reached => (p, reached)
  | bound + 1, p, v, reached =>
    if v < p.stack.versions.size then
      let (p, reached) := l.catchUp bound p v reached
      goOn bound p (v + 1) reached
    else (p, reached)

/-- How two versions compare: one that has paused is dropped for one that has not, and the one with
the higher preference comes first. -/
def comparison (s : Stack) (a b : Nat) : Comparison :=
  let isPaused := fun v => (s.version v).status == .paused
  if !isPaused a && isPaused b then .dropSecond
  else if isPaused a && !isPaused b then .dropFirst
  else if (s.top a).preference < (s.top b).preference then .swap
  else .keepOrder

/-- Compares a version with those before it, from a position in the list on. Also gives the
position to go on from. -/
def settle : (bound : Nat) → Stack → (b a : Nat) → Stack × Nat
  | 0, s, b, _ => (s, b + 1)
  | bound + 1, s, b, a =>
    if b ≤ a then (s, b + 1)
    else match comparison s a b with
      | .dropSecond => (s.drop b, b)
      | .dropFirst => settle bound (s.drop a) (b - 1) a
      | .keepOrder =>
        match s.merge? bound a b with
        | some merged => (merged, b)
        | none => settle bound s b (a + 1)
      | .swap =>
        match s.merge? bound a b with
        | some merged => (merged, b)
        | none =>
          settle bound { s with versions := s.versions.swapIfInBounds a b } b (a + 1)

/-- Drops the versions that have halted or are outdone, from a position in the list on. -/
def condense : (bound : Nat) → Stack → (v : Nat) → Stack
  | 0, s, _ => s
  | bound + 1, s, v =>
    if v < s.versions.size then
      if (s.version v).status == .halted then condense bound (s.drop v) v
      else
        let (s, next) := settle bound s v 0
        condense bound s next
    else s

/-- Reads on round by round. There is no reading if all versions have paused before one of them
has come to the end. -/
def rounds : (bound : Nat) → Parse → (reached : Nat) → Option Reading
  | 0, _, _ => none
  | bound + 1, p, reached =>
    let (p, reached) := l.goOn bound p 0 reached
    let stack := condense bound p.stack 0
    let versions := stack.versions.extract 0 versionLimit
    let going := versions.filter (·.status == .active)
    if going.isEmpty then p.finished
    else rounds bound ⟨{ stack with versions := going }, p.finished⟩ reached

end Language

def Tree.parse? (source : Text) : Option Tree := do
  let reading ← Language.standard.rounds (64 * (source.length + 64)) ⟨.initial source, none⟩ 0
  (reading.trees Language.standard.automaton.productions none .plain).head?

end CodingStandard
