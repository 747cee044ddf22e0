namespace CodingStandard

/-!
# Text

Every rule of the library reads text as a list of characters. Columns, offsets and lengths are
counted in UTF-8 bytes, so `byteLength` is the measure that reports use. Lines end at a newline;
one carriage return before the newline belongs to the terminator, and a carriage return that
stands alone is an ordinary character.
-/

/-- A text is its list of characters. -/
abbrev Text := List Char

namespace Text

/-- The number of bytes of a text in UTF-8. -/
def byteLength : Text → Nat
  | [] => 0
  | c :: rest => c.utf8Size + byteLength rest

@[simp] theorem byteLength_nil : byteLength [] = 0 := rfl

@[simp] theorem byteLength_cons (c : Char) (t : Text) :
    byteLength (c :: t) = c.utf8Size + byteLength t := rfl

@[simp] theorem byteLength_append (s t : Text) :
    byteLength (s ++ t) = byteLength s + byteLength t := by
  induction s with
  | nil => simp
  | cons c s ih => simp [ih, Nat.add_assoc]

/-- White space in the sense of the Unicode property `White_Space`. -/
def isBlank (c : Char) : Bool :=
  let n := c.toNat
  (9 ≤ n && n ≤ 13) || n == 0x20 || n == 0x85 || n == 0xA0 || n == 0x1680 ||
    (0x2000 ≤ n && n ≤ 0x200A) || n == 0x2028 || n == 0x2029 || n == 0x202F || n == 0x205F ||
    n == 0x3000

/-- Drops the characters of a class from the end. -/
def dropEndWhile (p : Char → Bool) (t : Text) : Text :=
  (t.reverse.dropWhile p).reverse

def trimStart (t : Text) : Text := t.dropWhile isBlank

def trimEnd (t : Text) : Text := dropEndWhile isBlank t

def trim (t : Text) : Text := trimEnd (trimStart t)

/-- A text that holds white space only, the empty text included. -/
def isWhite (t : Text) : Bool := t.all isBlank

/-- What follows `lead` in a text that starts with it. -/
def after? : (lead : Text) → Text → Option Text
  | [], t => some t
  | _ :: _, [] => none
  | a :: lead, c :: t => if a = c then after? lead t else none

/-- What precedes `tail` in a text that ends with it. -/
def before? (tail t : Text) : Option Text :=
  (after? tail.reverse t.reverse).map List.reverse

def startsWith (t lead : Text) : Bool := (after? lead t).isSome

theorem startsWith_iff {t lead : Text} : startsWith t lead = true ↔ lead <+: t := by
  induction lead generalizing t with
  | nil => simp [startsWith, after?]
  | cons a lead ih =>
      cases t with
      | nil => simp [startsWith, after?]
      | cons c t =>
          rw [startsWith, after?, List.cons_prefix_cons, ← ih, startsWith]
          split <;> simp_all

def endsWith (t tail : Text) : Bool := (before? tail t).isSome

def occursIn (part : Text) : Text → Bool
  | [] => part.isEmpty
  | c :: t => startsWith (c :: t) part || occursIn part t

/-- Splits at every occurrence of a character; there is one part more than occurrences. -/
def splitOn (mark : Char) : Text → List Text
  | [] => [[]]
  | c :: t =>
    if c = mark then [] :: splitOn mark t
    else match splitOn mark t with
      | [] => [[c]]
      | part :: parts => (c :: part) :: parts

def splitLast? (mark : Char) : Text → Option (Text × Text)
  | [] => none
  | c :: t =>
    match splitLast? mark t with
    | some (front, back) => some (c :: front, back)
    | none => if c = mark then some ([], t) else none

/-- The lines of a text with their terminators; their concatenation is the text. -/
def pieces : Text → List Text
  | [] => []
  | c :: t =>
    if c = '\n' then [c] :: pieces t
    else match pieces t with
      | [] => [[c]]
      | piece :: rest => (c :: piece) :: rest

/-- A line without its terminator: a final newline, and one carriage return before it. -/
def dropTerminator (piece : Text) : Text :=
  match before? ['\n'] piece with
  | none => piece
  | some line => (before? ['\r'] line).getD line

def lines (t : Text) : List Text := (pieces t).map dropTerminator

def join (mark : Text) (parts : List Text) : Text := mark.intercalate parts

/-- Replaces each occurrence of `old`, from the left and without overlaps; `skip` characters of
an occurrence that was just replaced are still to be passed over. -/
def replaceFrom (old new : Text) : (skip : Nat) → Text → Text
  | _, [] => []
  | skip + 1, _ :: t => replaceFrom old new skip t
  | 0, c :: t =>
    if !old.isEmpty && startsWith (c :: t) old then new ++ replaceFrom old new (old.length - 1) t
    else c :: replaceFrom old new 0 t

/-- Replaces each occurrence of `old`, from the left and without overlaps. -/
def replace (old new t : Text) : Text := replaceFrom old new 0 t

def number (digits : Text) : Nat := digits.foldl (fun n d => n * 10 + (d.toNat - '0'.toNat)) 0

/-- The lower-case form of the letters `A` to `Z`; other characters stay. -/
def toLower (t : Text) : Text := t.map Char.toLower

end Text

end CodingStandard
