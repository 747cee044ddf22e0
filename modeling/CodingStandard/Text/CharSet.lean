import CodingStandard.Text

namespace CodingStandard

/-!
# Sets of characters

A set of characters is a list of ranges of numbers. The ranges are in order, and between two of
them lies a gap, so that each set is written in one way.
-/

structure CharSet where
  ranges : List (Nat × Nat)
  deriving DecidableEq, Repr

namespace CharSet

/-- The highest number of a character. -/
def limit : Nat := 0x10FFFF

def empty : CharSet := ⟨[]⟩

/-- Joins ranges that overlap or touch, of a list in the order of their first numbers. -/
def join : List (Nat × Nat) → List (Nat × Nat)
  | [] => []
  | [r] => [r]
  | (a, b) :: (c, d) :: rest =>
    if c ≤ b + 1 then join ((a, max b d) :: rest) else (a, b) :: join ((c, d) :: rest)
termination_by list => list.length

def ofRanges (list : List (Nat × Nat)) : CharSet :=
  ⟨join (list.mergeSort fun r s => r.1 ≤ s.1)⟩

def just (c : Char) : CharSet := ⟨[(c.toNat, c.toNat)]⟩

def range (first last : Char) : CharSet := ofRanges [(first.toNat, last.toNat)]

def inRanges (n : Nat) : List (Nat × Nat) → Bool
  | [] => false
  | (a, b) :: rest => if n < a then false else n ≤ b || inRanges n rest

def hasNumber (s : CharSet) (n : Nat) : Bool := inRanges n s.ranges

def has (s : CharSet) (c : Char) : Bool := s.hasNumber c.toNat

/-- The gaps between ranges in order, from a number on. -/
def gaps (start : Nat) : List (Nat × Nat) → List (Nat × Nat)
  | [] => if start ≤ limit then [(start, limit)] else []
  | (a, b) :: rest => if start < a then (start, a - 1) :: gaps (b + 1) rest else gaps (b + 1) rest

def compl (s : CharSet) : CharSet := ⟨gaps 0 s.ranges⟩

def union (s t : CharSet) : CharSet := ofRanges (s.ranges ++ t.ranges)

def inter (s t : CharSet) : CharSet := (s.compl.union t.compl).compl

def diff (s t : CharSet) : CharSet := s.inter t.compl

def symmDiff (s t : CharSet) : CharSet := (s.diff t).union (t.diff s)

/-- The ranges of a list of gaps and lengths by turns, from a number on. -/
def rangesOfRuns (start : Nat) : List Nat → List (Nat × Nat)
  | gap :: length :: rest =>
    (start + gap, start + gap + length - 1) :: rangesOfRuns (start + gap + length) rest
  | _ => []

/-- The set that a table of runs spells: by turns the number of characters in a row that are not in
the set, and of those that are. -/
def ofRuns (table : List String) : CharSet :=
  ofRanges (rangesOfRuns 0
    (table.flatMap fun line => (Text.splitOn ' ' line.toList).map Text.number))

end CharSet

end CodingStandard
