import CodingStandard.Text

namespace CodingStandard

/-!
# Values of configuration files

Configuration files are written in TOML. Of its values, dates are not supported. A number with a
fraction is kept as the decimal it is written as.
-/

/-- A decimal number: a sign, digits, and the power of ten that scales them. -/
structure Decimal where
  negative : Bool
  digits : Text
  exponent : Int
  deriving DecidableEq, Repr

namespace Decimal

/-- The number with neither leading nor trailing zeros; zero has no digits. -/
def normalize (d : Decimal) : Decimal :=
  let digits := d.digits.dropWhile (· == '0')
  let short := Text.dropEndWhile (· == '0') digits
  if short.isEmpty then ⟨d.negative, [], 0⟩
  else ⟨d.negative, short, d.exponent + (digits.length - short.length : Nat)⟩

/-- The magnitude in positional notation, with at least one digit on both sides of the point. -/
def positional (digits : Text) (exponent : Int) : Text :=
  let whole := (digits.length + exponent).toNat
  let padded := List.replicate (-(digits.length + exponent)).toNat '0' ++ digits ++
    List.replicate exponent.toNat '0'
  let front := padded.take whole
  let back := padded.drop whole
  (if front.isEmpty then ['0'] else front) ++ '.' :: (if back.isEmpty then ['0'] else back)

/-- The magnitude with one digit before the point and an exponent. -/
def scientific (digits : Text) (exponent : Int) : Text :=
  let fraction := digits.drop 1
  digits.take 1 ++ (if fraction.isEmpty then [] else '.' :: fraction) ++
    'e' :: (toString (exponent + (digits.length - 1 : Nat))).toList

/-- The text of a number: positional from 0.00001 up to 10^16, scientific otherwise. -/
def render (d : Decimal) : Text :=
  let n := d.normalize
  let order := n.digits.length + n.exponent
  (if d.negative then ['-'] else []) ++
    (if n.digits.isEmpty then "0.0".toList
     else if -4 ≤ order && order ≤ 16 then positional n.digits n.exponent
     else scientific n.digits n.exponent)

end Decimal

/-- A value. The keys of a table are distinct. -/
inductive Toml where
  | string (value : String)
  | integer (value : Int)
  | decimal (value : Decimal)
  /-- An infinity, or no number at all. -/
  | special (text : String)
  | boolean (value : Bool)
  | array (items : List Toml)
  | table (entries : List (String × Toml))
  deriving Repr

namespace Toml

def string? : Toml → Option String
  | string value => some value
  | _ => none

def integer? : Toml → Option Int
  | integer value => some value
  | _ => none

def integerWithin? (low high : Int) (value : Toml) : Option Int :=
  value.integer?.filter fun n => low ≤ n && n ≤ high

def boolean? : Toml → Option Bool
  | boolean value => some value
  | _ => none

def items? : Toml → Option (List Toml)
  | array items => some items
  | _ => none

def entries? : Toml → Option (List (String × Toml))
  | table entries => some entries
  | _ => none

/-- The strings of an array that holds nothing else. -/
def strings? (value : Toml) : Option (List String) := do (← value.items?).mapM string?

end Toml

end CodingStandard
