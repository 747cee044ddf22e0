import CodingStandard.Pattern.Regex.Class
import CodingStandard.Pattern.Regex.Size

namespace CodingStandard

/-!
# The notation of expressions

`Regex.parse?` reads the usual notation, with groups, flags, classes, counted repetition and the
edges of text, line and word. Look-around and back references are not part of it. Names of groups
are distinct, nesting is limited, and so is the size of what is read.
-/

namespace Regex

/-- A part of a sequence, with the depth of its notation. -/
structure Item where
  regex : Regex
  depth : Nat
  /-- Whether the part only sets flags. -/
  isFlags : Bool
  deriving Repr

structure Parsed where
  regex : Regex
  depth : Nat
  deriving Repr

namespace Parsed

def depthOf (depths : List Nat) : Nat := 1 + depths.foldl max 0

/-- Parts one after the other; the last comes first in the list. -/
def ofItems : List Item → Parsed
  | [] => ⟨.empty, 0⟩
  | [item] => ⟨item.regex, item.depth⟩
  | items => ⟨items.foldl (fun r i => i.regex.append r) .empty, depthOf (items.map (·.depth))⟩

/-- A choice of branches; the last comes first in the list. -/
def ofBranches : List Parsed → Parsed
  | [] => ⟨.empty, 0⟩
  | [branch] => branch
  | branches =>
    ⟨choice (branches.reverse.map (·.regex)), depthOf (branches.map (·.depth))⟩

end Parsed

/-- The counted repetitions are below this number. -/
def countLimit : Nat := 0x100000000

def depthLimit : Nat := 250

/-- Digits, between which blanks may be passed over. -/
def countDigits (f : Flags) : (bound : Nat) → Text → Text × Text
  | 0, t => ([], t)
  | bound + 1, t =>
    match t with
    | c :: rest =>
      if c.isDigit then
        let (digits, rest) := countDigits f bound (f.skip rest)
        (c :: digits, rest)
      else ([], t)
    | [] => ([], [])

/-- A decimal number, perhaps with spaces around it; there may be none. -/
def count? (f : Flags) (t : Text) : Option (Option Nat × Text) :=
  let t := t.dropWhile Text.isBlank
  let (digits, rest) := countDigits f (t.length + 1) t
  let rest := f.skip (rest.dropWhile Text.isBlank)
  if digits.isEmpty then some (none, rest)
  else if countLimit ≤ Text.number digits then none
  else some (some (Text.number digits), rest)

/-- The counts of a repetition after its opening brace. -/
def counts? (f : Flags) (t : Text) : Option ((Nat × Option Nat) × Text) := do
  let (least, rest) ← count? f (f.skip t)
  let least ← least
  match rest with
  | ',' :: rest =>
    match f.skip rest with
    | '\x7d' :: rest => some ((least, none), rest)
    | rest =>
      let (most, rest) ← count? f rest
      let most ← most
      if least ≤ most then some ((least, some most), ← Text.after? ['\x7d'] rest) else none
  | '\x7d' :: rest => some ((least, some least), rest)
  | _ => none

/-- Drops the mark of a lazy repetition. -/
def dropLazy : Text → Text
  | '?' :: rest => rest
  | t => t

def repetition? (f : Flags) (t : Text) : Option ((Nat × Option Nat) × Text) :=
  match t with
  | '*' :: rest => some ((0, none), dropLazy rest)
  | '+' :: rest => some ((1, none), dropLazy rest)
  | '?' :: rest => some ((0, some 1), dropLazy rest)
  | '\x7b' :: rest => do
    let (counts, rest) ← counts? f rest
    some (counts, dropLazy (f.skip rest))
  | _ => none

def Flags.set? (f : Flags) (value : Bool) : Char → Option Flags
  | 'i' => some { f with ignoreCase := value }
  | 'm' => some { f with multiLine := value }
  | 's' => some { f with dotAll := value }
  | 'x' => some { f with verbose := value }
  | 'u' => some { f with unicode := value }
  | 'R' => some { f with returns := value }
  | 'U' => some f
  | _ => none

/-- The flags that letters set and, after a hyphen, clear. No letter stands twice, and something
follows the hyphen. -/
def flagsOf? (f : Flags) (letters : Text) : Option Flags :=
  if !letters.Nodup then none
  else if letters.getLast? = some '-' then none
  else
    let on := letters.takeWhile (· != '-')
    let off := (letters.drop on.length).drop 1
    do off.foldlM (fun f c => f.set? false c) (← on.foldlM (fun f c => f.set? true c) f)

def groupName? (t : Text) : Option (Text × Text) :=
  let name := t.takeWhile (· != '>')
  match t.drop name.length, name with
  | _ :: rest, first :: others =>
    if (first == '_' || Text.alphabetic.has first) &&
        others.all (fun c => Text.alphabetic.has c || Text.numeric.has c ||
          "_.[]".toList.contains c) then
      some (name, rest)
    else none
  | _, _ => none

/-- How a group starts: with its body, or with flags for what follows it. -/
inductive Opening where
  /-- A group that can be referred to, perhaps by a name. -/
  | capture (name : Option Text) (rest : Text)
  | plain (flags : Flags) (rest : Text)
  | flags (flags : Flags) (rest : Text)
  deriving Repr

/-- The start of a group after its parenthesis. -/
def opening? (f : Flags) (t : Text) : Option Opening :=
  let named := fun (t : Text) => do
    let (name, rest) ← groupName? t
    some (Opening.capture (some name) rest)
  match t with
  | '?' :: 'P' :: '<' :: t => named t
  | '?' :: '<' :: t => named t
  | '?' :: t =>
    let letters := t.takeWhile fun c => c != ':' && c != ')'
    match t.drop letters.length with
    | ':' :: rest => do some (.plain (← flagsOf? f letters) rest)
    | _ :: rest => do
      if letters.isEmpty then none
      some (.flags (← flagsOf? f letters) rest)
    | [] => none
  | _ => some (.capture none t)

def dot? (f : Flags) : Option CharSet :=
  if !f.unicode then none
  else if f.dotAll then some .all
  else if f.returns then some (CharSet.ofRanges [(0xA, 0xA), (0xD, 0xD)]).compl
  else some (CharSet.just '\n').compl

/-- A character on its own. Where sets are limited to ASCII, bytes outside it stand for no
character, and case is ignored for ASCII letters only. -/
def literal? (f : Flags) (c : Char) (isByte : Bool) : Option Regex :=
  if !f.unicode && 0x80 ≤ c.toNat && (isByte || f.ignoreCase) then none
  else some (.chars (f.fold (.just c)))

def atom? (f : Flags) (t : Text) : Option (Item × Text) :=
  match t with
  | [] => none
  | '.' :: rest => do some (⟨.chars (← dot? f), 0, false⟩, rest)
  | '^' :: rest =>
    some (⟨.look (if f.multiLine then .lineStart f.returns else .textStart), 0, false⟩, rest)
  | '$' :: rest =>
    some (⟨.look (if f.multiLine then .lineEnd f.returns else .textEnd), 0, false⟩, rest)
  | '[' :: rest => do
    let (part, rest) ← class? f rest
    some (⟨.chars part.set, part.depth, false⟩, rest)
  | '\\' :: rest => do
    let (primitive, rest) ← escape? f rest
    let regex ← match primitive with
      | .char c isByte => literal? f c isByte
      | .set s => some (.chars s)
      | .look l => some (.look l)
    some (⟨regex, 0, false⟩, rest)
  | c :: rest => do some (⟨← literal? f c false, 0, false⟩, rest)

/-- Whether a text starts with a repetition, well formed or not. -/
def startsRepetition (t : Text) : Bool :=
  t.head?.any fun c => c == '*' || c == '+' || c == '?' || c == '\x7b'

/-- What has been read of a group: the branches and the parts of the last branch, the last ones
first, and the names of groups. -/
structure GroupState where
  branches : List Parsed
  items : List Item
  names : List Text
  deriving Repr

namespace GroupState

def start (names : List Text) : GroupState := ⟨[], [], names⟩

def add (g : GroupState) (i : Item) : GroupState := { g with items := i :: g.items }

def close (g : GroupState) : Parsed := .ofBranches (.ofItems g.items :: g.branches)

def branch (g : GroupState) : GroupState :=
  { g with branches := .ofItems g.items :: g.branches, items := [] }

def repeat? (g : GroupState) (least : Nat) (most : Option Nat) : Option GroupState :=
  match g.items with
  | last :: others =>
    if last.isFlags then none
    else some { g with items := ⟨last.regex.times least most, last.depth + 1, false⟩ :: others }
  | [] => none

/-- Takes up the name of a group, which has to be new. -/
def name? (g : GroupState) (name : Option Text) : Option GroupState :=
  match name with
  | none => some g
  | some n => if g.names.contains n then none else some { g with names := n :: g.names }

end GroupState

/-- Reads on in a group up to its end. -/
def group? : (bound : Nat) → Flags → GroupState → Text → Option (GroupState × Text)
  | 0, _, _, _ => none
  | bound + 1, f, g, t =>
    let inner := fun (inside : Flags) (g : GroupState) (rest : Text) (wrap : Regex → Regex) => do
      let (read, rest) ← group? bound inside (.start g.names) rest
      let parsed := read.close
      let g := { g with names := read.names }
      group? bound f (g.add ⟨wrap parsed.regex, parsed.depth + 1, false⟩) (← Text.after? [')'] rest)
    match f.skip t with
    | [] => some (g, [])
    | ')' :: rest => some (g, ')' :: rest)
    | '|' :: rest => group? bound f g.branch rest
    | '(' :: rest => do
      match ← opening? f (f.skip rest) with
      | .flags outer rest => group? bound outer (g.add ⟨.empty, 0, true⟩) rest
      | .plain inside rest => inner inside g rest id
      | .capture name rest => inner f (← g.name? name) rest .group
    | t =>
      if startsRepetition t then do
        let ((least, most), rest) ← repetition? f t
        group? bound f (← g.repeat? least most) rest
      else do
        let (item, rest) ← atom? f t
        group? bound f (g.add item) rest

def parse? (t : Text) : Option Regex :=
  match group? (t.length + 1) .initial (.start []) t with
  | some (g, []) =>
    let parsed := g.close
    if parsed.depth ≤ depthLimit && parsed.regex.fits then some parsed.regex else none
  | _ => none

end Regex

end CodingStandard
