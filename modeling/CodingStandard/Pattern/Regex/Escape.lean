import CodingStandard.Pattern.Regex
import CodingStandard.Pattern.Regex.NamedSet
import CodingStandard.Text.Fold

namespace CodingStandard

/-!
# Flags and escapes

What a backslash and the characters after it stand for. Flags change the meaning of what is read:
case may be ignored, white space may be passed over, and sets may be limited to ASCII.
-/

namespace Regex

/-- The flags that change the meaning of what follows. -/
structure Flags where
  ignoreCase : Bool
  /-- Lines have starts and ends of their own. -/
  multiLine : Bool
  /-- A dot stands for the end of a line too. -/
  dotAll : Bool
  /-- White space and comments are passed over. -/
  verbose : Bool
  /-- Sets hold characters of all scripts. -/
  unicode : Bool
  /-- Carriage returns end lines too. -/
  returns : Bool
  deriving DecidableEq, Repr

def Flags.initial : Flags := ⟨false, false, false, false, true, false⟩

def skipBlanks : (inComment : Bool) → Text → Text
  | _, [] => []
  | true, c :: t => skipBlanks (c != '\n') t
  | false, c :: t =>
    if Text.isBlank c then skipBlanks false t
    else if c = '#' then skipBlanks true t
    else c :: t

namespace Flags

/-- Passes over what the flags say is to be passed over. -/
def skip (f : Flags) (t : Text) : Text := if f.verbose then skipBlanks false t else t

/-- A set with regard to case. -/
def fold (f : Flags) (s : CharSet) : CharSet :=
  if f.ignoreCase then (if f.unicode then s.fold else s.foldAscii) else s

/-- The complement of a set, if wanted. A set that is limited to ASCII has none. -/
def negate? (f : Flags) (negated : Bool) (s : CharSet) : Option CharSet :=
  if negated then (if f.unicode then some s.compl else none) else some s

def digits (f : Flags) : CharSet := if f.unicode then Property.digit else .ofRanges [(0x30, 0x39)]

def spaces (f : Flags) : CharSet :=
  if f.unicode then Property.whiteSpace else .ofRanges [(0x9, 0xD), (0x20, 0x20)]

def words (f : Flags) : CharSet :=
  if f.unicode then Property.word
  else .ofRanges [(0x30, 0x39), (0x41, 0x5A), (0x5F, 0x5F), (0x61, 0x7A)]

end Flags

/-- What a part of an expression stands for. -/
inductive Primitive where
  /-- A character, which may have been given as a byte. -/
  | char (c : Char) (isByte : Bool)
  | set (s : CharSet)
  | look (l : Look)
  deriving Repr

def hexDigit? (d : Char) : Option Nat :=
  if d.isDigit then some (d.toNat - 48)
  else if 'a' ≤ d ∧ d ≤ 'f' then some (d.toNat - 87)
  else if 'A' ≤ d ∧ d ≤ 'F' then some (d.toNat - 55)
  else none

def charOf? (value : Nat) : Option Char :=
  if value < 0xD800 ∨ (0xDFFF < value ∧ value < 0x110000) then some (.ofNat value) else none

def hexDigits? (f : Flags) : (width value : Nat) → Text → Option (Nat × Text)
  | 0, value, t => some (value, t)
  | _ + 1, _, [] => none
  | width + 1, value, c :: t => do
    hexDigits? f width (value * 16 + (← hexDigit? c)) (f.skip t)

/-- The text up to a closing brace, and what comes after it. -/
def braced? (f : Flags) : (bound : Nat) → Text → Option (Text × Text)
  | 0, _ => none
  | bound + 1, t =>
    match f.skip t with
    | [] => none
    | '\x7d' :: rest => some ([], rest)
    | c :: rest => do
      let (inner, rest) ← braced? f bound rest
      some (c :: inner, rest)

/-- A character given by its code, with a fixed number of digits or with any number in braces. Two
digits without braces give a byte. -/
def codedChar? (f : Flags) (width : Nat) (t : Text) : Option (Primitive × Text) :=
  match f.skip t with
  | '\x7b' :: rest => do
    let (digits, rest) ← braced? f (rest.length + 1) rest
    if digits.isEmpty then none
    let value ← digits.foldlM (fun value d => do some (value * 16 + (← hexDigit? d))) 0
    some (.char (← charOf? value) false, f.skip rest)
  | t => do
    let (value, rest) ← hexDigits? f width 0 t
    some (.char (← charOf? value) (width == 2), rest)

/-- The set with a name in braces, in which a property and a value may be named. -/
def setInBraces? (name : Text) : Option CharSet :=
  match splitAt? ['!', '='] name with
  | some (property, value) => CharSet.valued? property value
  | none =>
    match splitAt? [':'] name with
    | some (property, value) => CharSet.valued? property value
    | none =>
      match splitAt? ['='] name with
      | some (property, value) => CharSet.valued? property value
      | none => CharSet.named? name
where
  splitAt? (mark : Text) : Text → Option (Text × Text)
    | [] => none
    | c :: t =>
      match Text.after? mark (c :: t) with
      | some rest => some ([], rest)
      | none => (splitAt? mark t).map fun (front, back) => (c :: front, back)

/-- A set with a name, in braces or of one letter, after the letter that announces it. -/
def namedSet? (f : Flags) (negated : Bool) (t : Text) : Option (Primitive × Text) := do
  if !f.unicode then none
  let (set, rest) ← match f.skip t with
    | '\x7b' :: rest => do
      let (name, rest) ← braced? f (rest.length + 1) rest
      some (← setInBraces? name, rest)
    | '\\' :: _ => none
    | c :: rest => do some (← CharSet.named? [c], f.skip rest)
    | [] => none
  some (.set (← f.negate? negated (f.fold set)), rest)

def edgeNamed? : String → Option WordEdge
  | "start" => some .start
  | "end" => some .stop
  | "start-half" => some .startHalf
  | "end-half" => some .stopHalf
  | _ => none

/-- The letters and hyphens that a text starts with, and what comes after them. -/
def edgeName (f : Flags) : (bound : Nat) → Text → Text × Text
  | 0, t => ([], t)
  | bound + 1, t =>
    match t with
    | c :: rest =>
      if c.isAlpha || c == '-' then
        let (name, rest) := edgeName f bound (f.skip rest)
        (c :: name, rest)
      else ([], t)
    | [] => ([], [])

/-- The edge of a word, which may be named in braces. Braces with anything but a letter or a hyphen
at their start belong to a repetition. -/
def wordEdge? (f : Flags) (t : Text) : Option (Primitive × Text) :=
  match t with
  | '\x7b' :: inner =>
    match f.skip inner with
    | [] => none
    | c :: rest =>
      if c.isAlpha || c == '-' then
        match edgeName f (rest.length + 1) (c :: rest) with
        | (name, '\x7d' :: rest) => do
          some (.look (.word (← edgeNamed? (String.ofList name)) f.words), rest)
        | _ => none
      else some (.look (.word .some f.words), t)
  | _ => some (.look (.word .some f.words), t)

def controlChar? : Char → Option Char
  | 'a' => some '\x07'
  | 'f' => some '\x0c'
  | 't' => some '\t'
  | 'n' => some '\n'
  | 'r' => some '\r'
  | 'v' => some '\x0b'
  | _ => none

/-- What a backslash and the text after it stand for. Marks stand for themselves. -/
def escape? (f : Flags) (t : Text) : Option (Primitive × Text) :=
  let classOf := fun (set : CharSet) (negated : Bool) (rest : Text) => do
    some (Primitive.set (← f.negate? negated set), rest)
  match t with
  | [] => none
  | 'd' :: t => classOf f.digits false t
  | 'D' :: t => classOf f.digits true t
  | 's' :: t => classOf f.spaces false t
  | 'S' :: t => classOf f.spaces true t
  | 'w' :: t => classOf f.words false t
  | 'W' :: t => classOf f.words true t
  | 'A' :: t => some (.look .textStart, t)
  | 'z' :: t => some (.look .textEnd, t)
  | 'b' :: t => wordEdge? f t
  | 'B' :: t => some (.look (.word .none f.words), t)
  | '<' :: t => some (.look (.word .start f.words), t)
  | '>' :: t => some (.look (.word .stop f.words), t)
  | 'x' :: t => codedChar? f 2 t
  | 'u' :: t => codedChar? f 4 t
  | 'U' :: t => codedChar? f 8 t
  | 'p' :: t => namedSet? f false t
  | 'P' :: t => namedSet? f true t
  | c :: t =>
    match controlChar? c with
    | some meant => some (.char meant false, t)
    | none => if c.isAlphanum || 0x80 ≤ c.toNat then none else some (.char c false, t)

end Regex

end CodingStandard
