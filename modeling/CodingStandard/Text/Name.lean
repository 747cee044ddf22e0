import CodingStandard.Text.GeneralCategory

namespace CodingStandard

/-!
# Characters of names

A name starts with a letter or an underscore and goes on with letters, digits, marks and
connectors. Some characters belong to names although their category does not say so, and some
letters do not, because writing them in a plain form would make something else of them.
-/

namespace Text

/-- Characters that can start a name whatever their category. -/
def nameStarts : List (Nat × Nat) := [(0x1885, 0x1886), (0x2118, 0x2118), (0x212E, 0x212E)]

/-- Characters that can go on with a name whatever their category. -/
def nameParts : List (Nat × Nat) :=
  [(0xB7, 0xB7), (0x387, 0x387), (0x1369, 0x1371), (0x19DA, 0x19DA), (0x200C, 0x200D),
    (0x30FB, 0x30FB), (0xFF65, 0xFF65)]

/-- Letters that do not belong to names, as their plain forms hold spaces or marks. -/
def brokenLetters : List (Nat × Nat) :=
  [(0x37A, 0x37A), (0x2E2F, 0x2E2F), (0xFC5E, 0xFC63), (0xFDFA, 0xFDFB), (0xFE70, 0xFE70),
    (0xFE72, 0xFE72), (0xFE74, 0xFE74), (0xFE76, 0xFE76), (0xFE78, 0xFE78), (0xFE7A, 0xFE7A),
    (0xFE7C, 0xFE7C), (0xFE7E, 0xFE7E)]

/-- Letters that do not start a name, as their plain forms start with a mark. -/
def hangingLetters : List (Nat × Nat) := [(0xE33, 0xE33), (0xEB3, 0xEB3), (0xFF9E, 0xFF9F)]

def within (ranges : List (Nat × Nat)) (c : Char) : Bool :=
  ranges.any fun (first, last) => first ≤ c.toNat && c.toNat ≤ last

def startsName (c : Char) : Bool :=
  if c.toNat < 0x80 then c.isAlpha
  else within nameStarts c ||
    ((GeneralCategory.of c).isLetter && !within brokenLetters c && !within hangingLetters c)

def continuesName (c : Char) : Bool :=
  if c.toNat < 0x80 then c.isAlphanum || c == '_'
  else within nameStarts c || within nameParts c ||
    (((GeneralCategory.of c).isLetter && !within brokenLetters c) ||
      (GeneralCategory.of c).isAttached)

/-- The name that a text starts with; it may also start with an underscore. -/
def leadingName (t : Text) : Text :=
  match t with
  | c :: rest => if c == '_' || startsName c then c :: rest.takeWhile continuesName else []
  | [] => []

end Text

end CodingStandard
