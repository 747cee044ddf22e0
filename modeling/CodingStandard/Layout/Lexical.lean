import CodingStandard.Text

namespace CodingStandard

/-!
# Code, strings and comments

A line of source is read one character at a time. The mode says whether the reader stands in
code or inside a string literal, and how much of a delimiter it has just seen. A `#` met in code
starts a comment that runs to the end of the line; brackets met in code move the depth.

`Lexer.split` cuts a line into its code and its comment, and the mode in which it ends decides
what the next line starts with.
-/

/-- A string literal that is still open: its quotation mark, and whether three of them close it. -/
structure OpenString where
  mark : Char
  triple : Bool
  deriving DecidableEq, Repr

/-- Where the reader of a line stands. -/
inductive Mode where
  | code
  /-- After one quotation mark in code: the start of a literal. -/
  | opened (mark : Char)
  /-- After two quotation marks in code: an empty literal, unless a third mark follows. -/
  | doubled (mark : Char)
  /-- Inside a literal that one mark closes. -/
  | short (mark : Char)
  | shortEscape (mark : Char)
  /-- Inside a literal that three marks close, with the number of marks just seen. -/
  | long (mark : Char) (seen : Nat)
  | longEscape (mark : Char)
  deriving DecidableEq, Repr

/-- The mode of the reader and the number of brackets that are open. -/
structure Lexer where
  mode : Mode
  depth : Nat
  deriving DecidableEq, Repr

namespace Mode

/-- Whether a `#` read here starts a comment. -/
def inCode : Mode → Bool
  | code => true
  | doubled _ => true
  | _ => false

def start : Option OpenString → Mode
  | none => code
  | some ⟨mark, false⟩ => short mark
  | some ⟨mark, true⟩ => long mark 0

/-- The literal that is open when a line ends in this mode. -/
def openString? : Mode → Option OpenString
  | code => none
  | doubled _ => none
  | opened mark => some ⟨mark, false⟩
  | short mark => some ⟨mark, false⟩
  | shortEscape mark => some ⟨mark, false⟩
  | long mark _ => some ⟨mark, true⟩
  | longEscape mark => some ⟨mark, true⟩

end Mode

namespace Lexer

/-- Reads a character of code. Closing brackets in excess leave the depth at zero. -/
def stepCode (depth : Nat) (c : Char) : Lexer :=
  if c = '"' ∨ c = '\'' then ⟨.opened c, depth⟩
  else if c = '(' ∨ c = '[' ∨ c = '\x7b' then ⟨.code, depth + 1⟩
  else if c = ')' ∨ c = ']' ∨ c = '\x7d' then ⟨.code, depth - 1⟩
  else ⟨.code, depth⟩

def stepShort (mark : Char) (depth : Nat) (c : Char) : Lexer :=
  if c = '\\' then ⟨.shortEscape mark, depth⟩
  else if c = mark then ⟨.code, depth⟩
  else ⟨.short mark, depth⟩

def step : Lexer → Char → Lexer
  | ⟨.code, depth⟩, c => stepCode depth c
  | ⟨.opened mark, depth⟩, c =>
    if c = mark then ⟨.doubled mark, depth⟩ else stepShort mark depth c
  | ⟨.doubled mark, depth⟩, c =>
    if c = mark then ⟨.long mark 0, depth⟩ else stepCode depth c
  | ⟨.short mark, depth⟩, c => stepShort mark depth c
  | ⟨.shortEscape mark, depth⟩, _ => ⟨.short mark, depth⟩
  | ⟨.long mark seen, depth⟩, c =>
    if c = '\\' then ⟨.longEscape mark, depth⟩
    else if c = mark then (if seen = 2 then ⟨.code, depth⟩ else ⟨.long mark (seen + 1), depth⟩)
    else ⟨.long mark 0, depth⟩
  | ⟨.longEscape mark, depth⟩, _ => ⟨.long mark 0, depth⟩

/-- Reads a text that holds no comment. -/
def run (lx : Lexer) (t : Text) : Lexer := t.foldl step lx

@[simp] theorem run_nil (lx : Lexer) : run lx [] = lx := rfl

@[simp] theorem run_cons (lx : Lexer) (c : Char) (t : Text) :
    run lx (c :: t) = run (lx.step c) t := rfl

@[simp] theorem run_append (lx : Lexer) (s t : Text) :
    run lx (s ++ t) = run (run lx s) t := List.foldl_append

/-- The code of a line and, from the `#` on, its comment. -/
def split : Lexer → Text → Text × Option Text
  | _, [] => ([], none)
  | lx, c :: t =>
    if lx.mode.inCode && c == '#' then ([], some (c :: t))
    else match split (lx.step c) t with
      | (code, comment) => (c :: code, comment)

/-- Cutting a line loses nothing. -/
theorem split_join (lx : Lexer) (t : Text) :
    (split lx t).1 ++ (split lx t).2.getD [] = t := by
  induction t generalizing lx with
  | nil => rfl
  | cons c t ih =>
      by_cases h : lx.mode.inCode && c == '#'
      · simp [split, h]
      · simpa [split, h] using ih (lx.step c)

end Lexer

end CodingStandard
