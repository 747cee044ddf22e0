import CodingStandard.Text

namespace CodingStandard

/-!
# Path patterns

In a pattern `?` stands for any character, `*` for any text, and a class in brackets for one of
its characters or, after `!`, for any other one. Two stars that form a whole component stand for
any number of directories.

Whether `?`, `*` and classes stand for slashes too is for the one who matches to say.
-/

/-- One or several neighbouring characters. -/
structure CharSpan where
  first : Char
  last : Char
  deriving DecidableEq, Repr

inductive GlobToken where
  | char (c : Char)
  | anyChar
  | oneOf (spans : List CharSpan)
  | noneOf (spans : List CharSpan)
  | anyText
  /-- Any number of directories, each with its slash. -/
  | anyDirectories
  deriving DecidableEq, Repr

inductive GlobFault where
  | tooManyStars
  | partialComponent
  | badClass
  deriving DecidableEq, Repr

/-- What is wrong with a pattern, and where. -/
structure GlobError where
  position : Nat
  fault : GlobFault
  deriving DecidableEq, Repr

def GlobError.message (e : GlobError) : String :=
  "Pattern syntax error near position " ++ toString e.position ++ ": " ++
    match e.fault with
    | .tooManyStars => "wildcards are either regular \x60*\x60 or recursive \x60**\x60"
    | .partialComponent => "recursive wildcards must form a single path component"
    | .badClass => "invalid range pattern"

structure Glob where
  tokens : List GlobToken
  deriving DecidableEq, Repr

namespace Glob

/-- The spans of a class: `a-z` is one span, and any other character is a span of its own. -/
def spans : Text → List CharSpan
  | a :: '-' :: b :: t => ⟨a, b⟩ :: spans t
  | a :: t => ⟨a, a⟩ :: spans t
  | [] => []

/-- The class that follows an opening bracket, and what comes after it. Its first character may be
a closing bracket. -/
def class? (t : Text) : Option (GlobToken × Text) :=
  match t with
  | '!' :: c :: t => (cut c t).map fun (body, rest) => (.noneOf (spans body), rest)
  | '!' :: [] => none
  | c :: t => (cut c t).map fun (body, rest) => (.oneOf (spans body), rest)
  | [] => none
where
  /-- The characters up to the next closing bracket, after a first one. -/
  cut (c : Char) (t : Text) : Option (Text × Text) :=
    let body := t.takeWhile (· != ']')
    match t.drop body.length with
    | _ :: rest => some (c :: body, rest)
    | [] => none

/-- What two stars after `previous` and before `t` stand for: the text after the slash that
belongs to them, or the distance of the fault from the first star. -/
def directories (previous : Option Char) (t : Text) : Except Int Text :=
  if previous.all (· == '/') then
    match t with
    | '/' :: rest => .ok rest
    | [] => .ok []
    | _ => .error 2
  else .error (-1)

/-- The tokens of a text that starts at a position, after the character `previous`. The text is
shorter than `bound`. -/
def tokensOf : (bound : Nat) → (position : Nat) → (previous : Option Char) → Text →
    Except GlobError (List GlobToken)
  | 0, _, _, _ => .ok []
  | _ + 1, _, _, [] => .ok []
  | bound + 1, position, previous, c :: t =>
    match c with
    | '?' => do return .anyChar :: (← tokensOf bound (position + 1) (some c) t)
    | '*' =>
      match (c :: t).takeWhile (· == '*') with
      | [_] => do return .anyText :: (← tokensOf bound (position + 1) (some c) t)
      | [_, _] =>
        match directories previous (t.drop 1) with
        | .ok rest => do
          let used := t.length + 1 - rest.length
          let last := if used = 2 then '*' else '/'
          return .anyDirectories :: (← tokensOf bound (position + used) (some last) rest)
        | .error shift => .error ⟨(position + shift).toNat, .partialComponent⟩
      | _ => .error ⟨position + 2, .tooManyStars⟩
    | '[' =>
      match class? t with
      | some (token, rest) => do
        let used := t.length + 1 - rest.length
        return token :: (← tokensOf bound (position + used) (some ']') rest)
      | none => .error ⟨position, .badClass⟩
    | _ => do return .char c :: (← tokensOf bound (position + 1) (some c) t)

def parse (t : Text) : Except GlobError Glob := do
  return ⟨← tokensOf (t.length + 1) 0 none t⟩

def inSpans (spans : List CharSpan) (c : Char) : Bool :=
  spans.any fun s => s.first ≤ c && c ≤ s.last

/-- Whether some end of a text passes a test. Unless `crossing`, no slash may be cut off. -/
def someEnd (crossing : Bool) (p : Text → Bool) : Text → Bool
  | [] => p []
  | c :: t => p (c :: t) || ((crossing || c != '/') && someEnd crossing p t)

/-- Whether an end of a text that follows a slash passes a test. -/
def someEndAfterSlash (p : Text → Bool) : Text → Bool
  | [] => false
  | c :: t => (c == '/' && p t) || someEndAfterSlash p t

def tokensMatch (crossing : Bool) : List GlobToken → Text → Bool
  | [], t => t.isEmpty
  | .anyText :: tokens, t => someEnd crossing (tokensMatch crossing tokens) t
  | .anyDirectories :: tokens, t =>
    tokensMatch crossing tokens t || someEndAfterSlash (tokensMatch crossing tokens) t ||
      tokensMatch crossing tokens []
  | _ :: _, [] => false
  | .char d :: tokens, c :: t => c == d && tokensMatch crossing tokens t
  | .anyChar :: tokens, c :: t => (crossing || c != '/') && tokensMatch crossing tokens t
  | .oneOf spans :: tokens, c :: t =>
    (crossing || c != '/') && inSpans spans c && tokensMatch crossing tokens t
  | .noneOf spans :: tokens, c :: t =>
    (crossing || c != '/') && !inSpans spans c && tokensMatch crossing tokens t

/-- Whether a pattern matches a text, its wildcards standing for slashes too. -/
def isMatch (glob : Glob) (t : Text) : Bool := tokensMatch true glob.tokens t

/-- Whether a pattern matches a path, its wildcards staying within a component. -/
def isPathMatch (glob : Glob) (t : Text) : Bool := tokensMatch false glob.tokens t

end Glob

end CodingStandard
