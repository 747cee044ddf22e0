import CodingStandard.Pattern.Regex.Escape

namespace CodingStandard

/-!
# Classes

A class in square brackets is a set of characters, put together from characters, ranges, other
sets and classes by union, intersection, difference and symmetric difference. The three
operations bind alike and group to the left. Beside its set a class has a depth, as nesting is
limited.
-/

namespace Regex

/-- A set with the depth of its notation. -/
structure ClassPart where
  set : CharSet
  depth : Nat
  deriving Repr

inductive SetOperation where
  | inter
  | diff
  | symmDiff
  deriving DecidableEq, Repr

namespace ClassPart

def ofList : List ClassPart → ClassPart
  | [] => ⟨.empty, 0⟩
  | [part] => part
  | parts =>
    ⟨parts.foldl (fun set part => set.union part.set) .empty,
      1 + parts.foldl (fun depth part => max depth part.depth) 0⟩

def combine (f : Flags) (op : SetOperation) (a b : ClassPart) : ClassPart :=
  let left := f.fold a.set
  let right := f.fold b.set
  let set := match op with
    | .inter => left.inter right
    | .diff => left.diff right
    | .symmDiff => left.symmDiff right
  ⟨set, 1 + max a.depth b.depth⟩

/-- The part that is made of an operation that waits for its second part, and of the parts read
since. -/
def close (f : Flags) (pending : Option (SetOperation × ClassPart)) (parts : List ClassPart) :
    ClassPart :=
  match pending with
  | none => ofList parts
  | some (op, left) => combine f op left (ofList parts)

end ClassPart

/-- A class by name, after its opening bracket: whether it is negated, its set, and what comes
after it. -/
def namedClass? (t : Text) : Option (Bool × CharSet × Text) :=
  match t with
  | ':' :: rest =>
    let negated := rest.head? == some '^'
    let body := if negated then rest.tail else rest
    let name := body.takeWhile (· != ':')
    match body.drop name.length with
    | ':' :: ']' :: rest => do some (negated, ← CharSet.bracketed? (String.ofList name), rest)
    | _ => none
  | _ => none

/-- The character after a hyphen in a class. Of a comment that comes first, only the mark that
starts it is passed over here. -/
def afterHyphen (f : Flags) (t : Text) : Option Char :=
  if !f.verbose then t.head?
  else
    let found := match t.dropWhile Text.isBlank with
      | '#' :: rest => (rest.dropWhile Text.isBlank).head?
      | rest => rest.head?
    found.or t.head?

def classAtom? (f : Flags) (t : Text) : Option (Primitive × Text) :=
  match t with
  | '\\' :: rest => escape? f rest
  | c :: rest => some (.char c false, rest)
  | [] => none

/-- A character of a class; only ASCII characters are if sets are limited to them. -/
def classChar? (f : Flags) : Primitive → Option Char
  | .char c _ => if f.unicode || c.toNat < 0x80 then some c else none
  | _ => none

def classSet? (f : Flags) (p : Primitive) : Option CharSet :=
  match p with
  | .char .. => (classChar? f p).map CharSet.just
  | .set s => some s
  | .look _ => none

def classItem? (f : Flags) (t : Text) : Option (CharSet × Text) := do
  let (first, rest) ← classAtom? f t
  match f.skip rest with
  | [] => none
  | '-' :: rest =>
    let next := afterHyphen f rest
    if next = some ']' ∨ next = some '-' then some (← classSet? f first, '-' :: rest)
    else
      let (last, rest) ← classAtom? f (f.skip rest)
      let first ← classChar? f first
      let last ← classChar? f last
      if first.toNat ≤ last.toNat then some (CharSet.range first last, rest) else none
  | rest => some (← classSet? f first, rest)

/-- The hyphens at the start of a class, which stand for themselves. -/
def leadingHyphens (f : Flags) : (bound : Nat) → Text → List ClassPart × Text
  | 0, t => ([], t)
  | bound + 1, t =>
    match t with
    | '-' :: rest =>
      let (parts, rest) := leadingHyphens f bound (f.skip rest)
      (⟨.just '-', 0⟩ :: parts, rest)
    | _ => ([], t)

/-- The start of a class after its opening bracket: whether it is negated, and the hyphens or the
closing bracket that come first and stand for themselves. -/
def classStart (f : Flags) (t : Text) : Bool × List ClassPart × Text :=
  let t := f.skip t
  let negated := t.head? == some '^'
  let t := if negated then f.skip t.tail else t
  match leadingHyphens f (t.length + 1) t with
  | ([], ']' :: rest) => (negated, [⟨.just ']', 0⟩], f.skip rest)
  | (parts, rest) => (negated, parts, rest)

/-- The rest of a class up to its closing bracket. -/
def classRest? (f : Flags) : (bound : Nat) → Option (SetOperation × ClassPart) →
    List ClassPart → Text → Option (ClassPart × Text)
  | 0, _, _, _ => none
  | bound + 1, pending, parts, t =>
    let operate := fun (op : SetOperation) (rest : Text) =>
      classRest? f bound (some (op, ClassPart.close f pending parts)) [] rest
    match f.skip t with
    | [] => none
    | ']' :: rest => some (ClassPart.close f pending parts, rest)
    | '&' :: '&' :: rest => operate .inter rest
    | '-' :: '-' :: rest => operate .diff rest
    | '~' :: '~' :: rest => operate .symmDiff rest
    | '[' :: rest =>
      match namedClass? rest with
      | some (negated, set, rest) => do
        let set ← f.negate? negated (f.fold set)
        classRest? f bound pending (parts ++ [⟨set, 0⟩]) rest
      | none => do
        let (negated, first, rest) := classStart f rest
        let (inner, rest) ← classRest? f bound none first rest
        let set ← f.negate? negated (f.fold inner.set)
        classRest? f bound pending (parts ++ [⟨set, inner.depth + 1⟩]) rest
    | t => do
      let (set, rest) ← classItem? f t
      classRest? f bound pending (parts ++ [⟨set, 0⟩]) rest

/-- A class after its opening bracket. -/
def class? (f : Flags) (t : Text) : Option (ClassPart × Text) := do
  let (negated, first, rest) := classStart f t
  let (inner, rest) ← classRest? f (t.length + 1) none first rest
  some (⟨← f.negate? negated (f.fold inner.set), inner.depth + 1⟩, rest)

end Regex

end CodingStandard
