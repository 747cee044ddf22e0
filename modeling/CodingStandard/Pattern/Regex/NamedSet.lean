import CodingStandard.Text.Age
import CodingStandard.Text.Boundary
import CodingStandard.Text.Letter

namespace CodingStandard

/-!
# Sets of characters by name

The sets that an expression can name: by a property, a general category or a script, or by a
property and the value that it has. Names are compared without regard to case, spaces, hyphens,
underscores and a leading `is`.
-/

namespace CharSet

/-- The form of a name in which it is compared. -/
def normalName (name : Text) : String :=
  let isLead := (name.take 2).map Char.toLower == ['i', 's']
  let kept := (if isLead then name.drop 2 else name).filter fun c =>
    c.toNat < 0x80 && c != ' ' && c != '_' && c != '-'
  let lower := kept.map Char.toLower
  String.ofList (if isLead && lower == ['c'] then ['i', 's', 'c'] else lower)

def all : CharSet := ⟨[(0, limit)]⟩

def ascii : CharSet := ⟨[(0, 0x7F)]⟩

def ofCategory? (name : String) : Option CharSet :=
  match name with
  | "any" => some all
  | "ascii" => some ascii
  | "assigned" => some (Property.ofCategories [.unassigned]).compl
  | _ => (GeneralCategory.named? name).map Property.ofCategories

def ofScript? (name : String) : Option CharSet := (Script.code? name).map Script.set

/-- The set with a name. Where the short names of a category and of a property are the same, the
category is meant. -/
def named? (name : Text) : Option CharSet :=
  let name := normalName name
  (Property.named? name).or ((ofCategory? name).or (ofScript? name))

def valued? (property value : Text) : Option CharSet :=
  let value := normalName value
  match normalName property with
  | "gc" | "generalcategory" => ofCategory? value
  | "sc" | "script" => ofScript? value
  | "scx" | "scriptextensions" => (Script.code? value).map Script.extended
  | "age" => Age.named? value
  | "gcb" | "graphemeclusterbreak" => Boundary.named? Boundary.graphemeClasses value
  | "wb" | "wordbreak" => Boundary.named? Boundary.wordClasses value
  | "sb" | "sentencebreak" => Boundary.named? Boundary.sentenceClasses value
  | _ => none

/-- The classes that have a name in square brackets. -/
def bracketed? (name : String) : Option CharSet :=
  match name with
  | "alnum" => some (.ofRanges [(0x30, 0x39), (0x41, 0x5A), (0x61, 0x7A)])
  | "alpha" => some (.ofRanges [(0x41, 0x5A), (0x61, 0x7A)])
  | "ascii" => some ascii
  | "blank" => some (.ofRanges [(0x9, 0x9), (0x20, 0x20)])
  | "cntrl" => some (.ofRanges [(0, 0x1F), (0x7F, 0x7F)])
  | "digit" => some (.ofRanges [(0x30, 0x39)])
  | "graph" => some (.ofRanges [(0x21, 0x7E)])
  | "lower" => some (.ofRanges [(0x61, 0x7A)])
  | "print" => some (.ofRanges [(0x20, 0x7E)])
  | "punct" => some (.ofRanges [(0x21, 0x2F), (0x3A, 0x40), (0x5B, 0x60), (0x7B, 0x7E)])
  | "space" => some (.ofRanges [(0x9, 0xD), (0x20, 0x20)])
  | "upper" => some (.ofRanges [(0x41, 0x5A)])
  | "word" => some (.ofRanges [(0x30, 0x39), (0x41, 0x5A), (0x5F, 0x5F), (0x61, 0x7A)])
  | "xdigit" => some (.ofRanges [(0x30, 0x39), (0x41, 0x46), (0x61, 0x66)])
  | _ => none

end CharSet

end CodingStandard
