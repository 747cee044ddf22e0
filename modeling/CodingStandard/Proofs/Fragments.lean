import CodingStandard.Proofs.Arrangement
import CodingStandard.Proofs.Lines
import CodingStandard.Syntax.Tree

namespace CodingStandard

/-!
# Fragments

A source without errors in its literals is a row of fragments: characters of code, newlines,
string literals and comments. A scan reads such a source line by line, and a literal may lie in
several lines. The proof reads the fragments one by one from any point within a line: between two
fragments the reader stands in code, and a line end within a literal leaves it in the mode in
which it would have read on.
-/

/-- A character of a string literal. -/
inductive Letter where
  | plain (c : Char)
  /-- A backslash and the character after it. -/
  | escaped (c : Char)
  deriving DecidableEq

/-- A piece of a source. -/
inductive Fragment where
  | code (c : Char)
  | newline
  /-- A literal between two quotation marks. -/
  | short (mark : Char) (body : List Letter)
  /-- A literal between three quotation marks on both sides. -/
  | long (mark : Char) (body : List Letter)
  /-- A comment, without the `#` that it starts with. -/
  | comment (text : Text)
  deriving DecidableEq

def Letter.text : Letter → Text
  | plain c => [c]
  | escaped c => ['\\', c]

def Letter.textOf (letters : List Letter) : Text := letters.flatMap Letter.text

@[simp] theorem Letter.textOf_nil : Letter.textOf [] = [] := rfl

@[simp] theorem Letter.textOf_plain (c : Char) (letters : List Letter) :
    Letter.textOf (.plain c :: letters) = c :: Letter.textOf letters := rfl

@[simp] theorem Letter.textOf_escaped (c : Char) (letters : List Letter) :
    Letter.textOf (.escaped c :: letters) = '\\' :: c :: Letter.textOf letters := rfl

def IsQuotationMark (c : Char) : Prop := c = '"' ∨ c = '\''

namespace Fragment

def text : Fragment → Text
  | code c => [c]
  | newline => ['\n']
  | short mark body => mark :: (Letter.textOf body ++ [mark])
  | long mark body => mark :: mark :: mark :: (Letter.textOf body ++ [mark, mark, mark])
  | comment text => '#' :: text

def textOf (fragments : List Fragment) : Text := fragments.flatMap text

def isLiteral : Fragment → Bool
  | short _ _ => true
  | long _ _ => true
  | _ => false

/-- Three marks in a row stand at the end only. -/
def ClosesAtEnd (mark : Char) (letters : List Letter) : Prop :=
  ∀ front back, letters = front ++ List.replicate 3 (.plain mark) ++ back → back = []

theorem ClosesAtEnd.of_append {mark : Char} {front letters : List Letter}
    (h : ClosesAtEnd mark (front ++ letters)) : ClosesAtEnd mark letters := by
  intro left right hsplit
  exact h (front ++ left) right (by rw [hsplit]; simp only [List.append_assoc])

instance (mark : Char) (letters : List Letter) : Decidable (ClosesAtEnd mark letters) :=
  decidable_of_iff
    (∀ rest ∈ letters.tails, List.replicate 3 (.plain mark) <+: rest → rest.length = 3) <| by
      constructor
      · intro h front back hsplit
        rw [List.append_assoc] at hsplit
        have hlength := h _ ((List.mem_tails _ _).mpr ⟨front, hsplit.symm⟩)
          (List.prefix_append _ back)
        simpa using hlength
      · rintro h rest hrest ⟨back, rfl⟩
        obtain ⟨front, hfront⟩ := (List.mem_tails _ _).mp hrest
        rw [h front back (by rw [List.append_assoc, hfront])]
        simp

/-- The fragment is complete: the marks that close a literal are the first ones that can. -/
def Complete : Fragment → Prop
  | code c => c ≠ '#' ∧ ¬ IsQuotationMark c ∧ c ≠ '\n'
  | newline => True
  | short mark body => IsQuotationMark mark ∧
      ∀ c, Letter.plain c ∈ body → c ≠ mark ∧ c ≠ '\\' ∧ c ≠ '\n'
  | long mark body => IsQuotationMark mark ∧ (∀ c, Letter.plain c ∈ body → c ≠ '\\') ∧
      ClosesAtEnd mark (body ++ List.replicate 3 (.plain mark))
  | comment text => '\n' ∉ text

/-- The fragment ends where the text behind it starts: an empty literal is not the start of a
longer one, and a comment takes the rest of its line. -/
def EndsBefore (rest : Text) : Fragment → Prop
  | short mark [] => rest.head? ≠ some mark
  | comment _ => ∀ c, rest.head? = some c → c = '\n'
  | _ => True

/-- The fragments of a source. -/
def WellFormed : List Fragment → Prop
  | [] => True
  | l :: rest => l.Complete ∧ l.EndsBefore (textOf rest) ∧ WellFormed rest

end Fragment

/-- The place behind a text that starts at a place. -/
def Place.after (place : Place) (t : Text) : Place :=
  t.foldl (fun place c =>
    if c = '\n' then ⟨place.line + 1, 0⟩ else ⟨place.line, place.column + c.utf8Size⟩) place

theorem Place.after_append (place : Place) (s t : Text) :
    place.after (s ++ t) = (place.after s).after t := List.foldl_append

theorem Place.after_of_not_mem {t : Text} (h : '\n' ∉ t) (place : Place) :
    place.after t = ⟨place.line, place.column + Text.byteLength t⟩ := by
  induction t generalizing place with
  | nil => rfl
  | cons c t ih =>
      obtain ⟨hc, ht⟩ := List.ne_and_not_mem_of_not_mem_cons h
      have hstep : place.after (c :: t) =
          (⟨place.line, place.column + c.utf8Size⟩ : Place).after t := by
        simp [after, hc.symm]
      rw [hstep, ih ht, Text.byteLength_cons, Nat.add_assoc]

/-- The comment that a fragment is when it stands at a place. -/
def Fragment.comment? (place : Place) : Fragment → Option Comment
  | comment text => some ⟨place.column, '#' :: text⟩
  | _ => none

/-- Fragments with the places where they start, the first one at `place`. -/
def Fragment.placed (place : Place) : List Fragment → List (Place × Fragment)
  | [] => []
  | l :: rest => (place, l) :: placed (place.after l.text) rest

/-! ## Reading within a line -/

namespace Lexer

theorem split_append {lx : Lexer} {s : Text} (h : split lx s = (s, none)) (t : Text) :
    split lx (s ++ t) = (s ++ (split (run lx s) t).1, (split (run lx s) t).2) := by
  induction s generalizing lx with
  | nil => rfl
  | cons c s ih =>
      rw [split] at h
      split at h
      case isTrue => simp at h
      case isFalse hc =>
        obtain ⟨hs, hnone⟩ := Prod.mk.inj h
        have hrest := @ih (lx.step c) (Prod.ext (List.cons.inj hs).2 hnone)
        rw [List.cons_append, split, if_neg hc, hrest]
        rfl

theorem split_singleton {lx : Lexer} {c : Char} (h : c = '#' → lx.mode.inCode = false) :
    split lx [c] = ([c], none) := by
  have hc : ¬ (lx.mode.inCode && c == '#') := by
    intro hcode
    simp only [Bool.and_eq_true, beq_iff_eq] at hcode
    simp [h hcode.2] at hcode
  rw [split, if_neg hc]
  rfl

theorem split_comment {lx : Lexer} (h : lx.mode.inCode) (t : Text) :
    split lx ('#' :: t) = ([], some ('#' :: t)) := by
  rw [split, if_pos (by simp [h])]

end Lexer

namespace Mode

/-- A newline may be read here. The next line starts in a literal or in code. -/
def Carries (inLiteral : Bool) : Mode → Prop
  | code => inLiteral = false
  | doubled mark => inLiteral = false ∧ mark ≠ '\n'
  | shortEscape _ => inLiteral = true
  | long mark _ => inLiteral = true ∧ mark ≠ '\n'
  | longEscape _ => inLiteral = true
  | _ => False

end Mode

namespace Lexer

theorem eq_backslash_of_step {lx : Lexer} {c mark : Char}
    (h : (lx.step c).mode = .shortEscape mark) : c = '\\' := by
  obtain ⟨mode, depth⟩ := lx
  cases mode <;> grind [step, stepCode, stepShort]

theorem getLast?_of_run {lx : Lexer} {t : Text} {mark : Char}
    (h : (run lx t).mode = .shortEscape mark) (hstart : lx.mode ≠ .shortEscape mark) :
    t.getLast? = some '\\' := by
  rcases t.eq_nil_or_concat' with rfl | ⟨front, c, rfl⟩
  · exact absurd h hstart
  · rw [run_append, run_cons, run_nil] at h
    rw [List.getLast?_concat, eq_backslash_of_step h]

end Lexer

namespace Carry

theorem next_lexer (carry : Carry) (number : Nat) (raw : Text) :
    (carry.next number raw).1.string = openAfter (carry.lexerAfter raw).mode raw ∧
      (carry.next number raw).1.depth = (carry.lexerAfter raw).depth := by
  by_cases hblank : (carry.physicalLine number raw).isBlank
  · rw [next_of_isBlank hblank]
    exact ⟨rfl, rfl⟩
  by_cases hcomment : (carry.physicalLine number raw).isCommentOnly
  · rw [next_of_isCommentOnly hcomment]
    exact ⟨rfl, rfl⟩
  · unfold next
    rw [if_neg hblank, if_neg hcomment]
    dsimp only
    split <;> exact ⟨rfl, rfl⟩

/-- A line end leaves the reader where it would have read on. -/
theorem start_openAfter {mode : Mode} {raw : Text} {inLiteral : Bool} (h : mode.Carries inLiteral)
    (hraw : ∀ mark, mode = .shortEscape mark → raw.getLast? = some '\\') (depth : Nat) :
    (openAfter mode raw).isSome = inLiteral ∧
      (⟨Mode.start (openAfter mode raw), depth⟩ : Lexer) = Lexer.step ⟨mode, depth⟩ '\n' := by
  cases mode <;> simp_all [Mode.Carries, openAfter, Mode.openString?, Mode.start, Lexer.step,
    Lexer.stepCode, eq_comm]

end Carry

namespace Lexer

/-- A text is read without meeting a comment, and all its newlines where they may be read. -/
def Smooth (inLiteral : Bool) : Lexer → Text → Prop
  | _, [] => True
  | lx, c :: t => (c = '#' → lx.mode.inCode = false) ∧ (c = '\n' → lx.mode.Carries inLiteral) ∧
      Smooth inLiteral (lx.step c) t

theorem Smooth.append {inLiteral : Bool} {lx : Lexer} {s t : Text} (h : Smooth inLiteral lx s)
    (h' : Smooth inLiteral (run lx s) t) : Smooth inLiteral lx (s ++ t) := by
  induction s generalizing lx with
  | nil => exact h'
  | cons c s ih => exact ⟨h.1, h.2.1, ih h.2.2 h'⟩

end Lexer

/-! ## Points of a scan -/

/-- A point of a scan: what the lines above hand over, the number of its line, and the part of
its line in front of it. -/
structure Point where
  carry : Carry
  number : Nat
  before : Text

namespace Point

/-- The lines from the point's own line on, if a text stands behind it. -/
def linesWith (p : Point) (t : Text) : List PhysicalLine :=
  physicalLines p.carry p.number (Text.lines (p.before ++ t))

/-- The line of the point, up to it. -/
def line (p : Point) : PhysicalLine := p.carry.physicalLine p.number p.before

def lexer (p : Point) : Lexer := p.carry.lexerAfter p.before

def place (p : Point) : Place := ⟨p.number, Text.byteLength p.before⟩

/-- The point behind one more character. -/
def push (p : Point) (c : Char) : Point :=
  if c = '\n' then ⟨(p.carry.next p.number p.before).1, p.number + 1, []⟩
  else ⟨p.carry, p.number, p.before ++ [c]⟩

def pushAll (p : Point) (t : Text) : Point := t.foldl push p

/-- The part of the line in front of the point holds no line end. -/
def OneLine (p : Point) : Prop := '\n' ∉ p.before ∧ '\r' ∉ p.before

variable {p q r : Point} {c : Char} {s t : Text}

@[simp] theorem number_line (p : Point) : p.line.number = p.number := rfl

@[simp] theorem line_place (p : Point) : p.place.line = p.number := rfl

theorem push_newline (p : Point) :
    p.push '\n' = ⟨(p.carry.next p.number p.before).1, p.number + 1, []⟩ := rfl

theorem push_of_ne (h : c ≠ '\n') : p.push c = ⟨p.carry, p.number, p.before ++ [c]⟩ := if_neg h

theorem place_push (p : Point) (c : Char) : (p.push c).place = p.place.after [c] := by
  by_cases hc : c = '\n'
  · subst hc
    rfl
  · simp [push_of_ne hc, place, Place.after, hc]

theorem linesWith_newline (h : p.OneLine) (t : Text) :
    p.linesWith ('\n' :: t) = p.line :: (p.push '\n').linesWith t := by
  rw [linesWith, Text.lines_append_newline h.1 h.2, physicalLines]
  rfl

theorem linesWith_of_ne (h : c ≠ '\n') (t : Text) :
    p.linesWith (c :: t) = (p.push c).linesWith t := by
  rw [push_of_ne h, linesWith, linesWith, List.append_cons]

theorem linesWith_nil (h : p.OneLine) :
    p.linesWith [] = if p.before = [] then [] else [p.line] := by
  rw [linesWith, List.append_nil, Text.lines_of_not_mem h.1]
  split <;> rfl

theorem oneLine_push (h : p.OneLine) (hc : c ≠ '\r') : (p.push c).OneLine := by
  by_cases hnewline : c = '\n'
  · subst hnewline
    simp [push_newline, OneLine]
  · simpa [push_of_ne hnewline, OneLine, eq_comm, hc, hnewline] using h

/-- Where the reader of a line stands before its first character. -/
def lineStart (p : Point) : Lexer := ⟨Mode.start p.carry.string, p.carry.depth⟩

theorem comment_line (p : Point) :
    p.line.comment = (Lexer.split p.lineStart p.before).2.map fun text =>
      ⟨Text.byteLength (Lexer.split p.lineStart p.before).1, text⟩ := rfl

theorem lexer_eq (p : Point) :
    p.lexer = Lexer.run p.lineStart (Lexer.split p.lineStart p.before).1 := rfl

theorem comment_line_eq_none_iff :
    p.line.comment = none ↔ Lexer.split p.lineStart p.before = (p.before, none) := by
  have hjoin := Lexer.split_join p.lineStart p.before
  rw [comment_line]
  revert hjoin
  generalize Lexer.split p.lineStart p.before = cut
  obtain ⟨code, comment⟩ := cut
  cases comment <;> simp

theorem lexer_of_comment_eq_none (h : p.line.comment = none) :
    p.lexer = Lexer.run p.lineStart p.before := by
  rw [lexer_eq, comment_line_eq_none_iff.mp h]

theorem getLast?_before (h : p.line.comment = none) {mark : Char}
    (hmode : p.lexer.mode = .shortEscape mark) : p.before.getLast? = some '\\' := by
  rw [lexer_of_comment_eq_none h] at hmode
  refine Lexer.getLast?_of_run hmode ?_
  unfold lineStart
  rcases p.carry.string with _ | ⟨m, _ | _⟩ <;> simp [Mode.start]

theorem of_push (hcomment : p.line.comment = none) (hc : c ≠ '\n')
    (hmark : c = '#' → p.lexer.mode.inCode = false) :
    (p.push c).line.comment = none ∧ (p.push c).lexer = p.lexer.step c := by
  have hsplit := comment_line_eq_none_iff.mp hcomment
  have hlexer := lexer_of_comment_eq_none hcomment
  have hnone : (p.push c).line.comment = none := by
    rw [comment_line_eq_none_iff, push_of_ne hc]
    change Lexer.split p.lineStart (p.before ++ [c]) = _
    rw [Lexer.split_append hsplit, ← hlexer, Lexer.split_singleton hmark]
  refine ⟨hnone, ?_⟩
  rw [lexer_of_comment_eq_none hnone, push_of_ne hc, hlexer]
  exact Lexer.run_append p.lineStart p.before [c]

theorem of_push_newline {inLiteral : Bool} (hmode : p.lexer.mode.Carries inLiteral)
    (hescape : p.line.comment = none ∨ inLiteral = false) :
    (p.push '\n').line.comment = none ∧ (p.push '\n').line.inString = inLiteral ∧
      (p.push '\n').lexer = p.lexer.step '\n' := by
  have hlast : ∀ mark, p.lexer.mode = .shortEscape mark → p.before.getLast? = some '\\' := by
    intro mark hmark
    rcases hescape with hnone | hcode
    · exact getLast?_before hnone hmark
    · simp [hmark, Mode.Carries, hcode] at hmode
  obtain ⟨hstring, hstep⟩ := Carry.start_openAfter hmode hlast p.lexer.depth
  obtain ⟨hnext, hdepth⟩ := p.carry.next_lexer p.number p.before
  have hnone : (p.push '\n').line.comment = none := rfl
  refine ⟨hnone, ?_, ?_⟩
  · rw [← hstring]
    exact congrArg Option.isSome hnext
  · rw [lexer_of_comment_eq_none hnone]
    change (⟨Mode.start (p.carry.next p.number p.before).1.string,
      (p.carry.next p.number p.before).1.depth⟩ : Lexer) = _
    rw [hnext, hdepth]
    exact hstep

/-- What is known of a line between two points: the first line goes on as it began, up to a
comment that may stand between the points, and the lines after it start in a literal or in code. -/
structure Agrees (p : Point) (comment : Option Comment) (inLiteral : Bool) (line : PhysicalLine) :
    Prop where
  comment_eq : line.comment = if line.number = p.number then p.line.comment.or comment else none
  inString_eq : line.inString = if line.number = p.number then p.line.inString else inLiteral

/-- The text between two points is read as code or as a part of a literal, with at most one
comment. -/
structure Reads (p q : Point) (s : Text) (comment : Option Comment) (inLiteral : Bool) :
    Prop where
  lines : ∀ t, ∃ passed, p.linesWith (s ++ t) = passed ++ q.linesWith t ∧
    ∀ line ∈ passed, p.number ≤ line.number ∧ line.number < q.number ∧
      p.Agrees comment inLiteral line
  place : q.place = p.place.after s
  le : p.number ≤ q.number
  last : p.Agrees comment inLiteral q.line

theorem reads_nil (p : Point) (inLiteral : Bool) : p.Reads p [] none inLiteral :=
  ⟨fun t => ⟨[], rfl, by simp⟩, rfl, le_rfl, by simp, by simp⟩

theorem Reads.append {inLiteral : Bool} (h : p.Reads q s none inLiteral)
    (h' : q.Reads r t none inLiteral) : p.Reads r (s ++ t) none inLiteral := by
  have hagrees : ∀ line : PhysicalLine, q.number ≤ line.number → q.Agrees none inLiteral line →
      p.Agrees none inLiteral line := by
    intro line hnumber hline
    have hcomment := h.last.comment_eq
    have hstring := h.last.inString_eq
    have hle := h.le
    rw [number_line] at hcomment hstring
    constructor
    · rw [hline.comment_eq]
      by_cases hfirst : line.number = p.number
      · have hq : q.number = p.number := by omega
        simp [hcomment, hfirst, hq]
      · grind
    · rw [hline.inString_eq]
      grind
  refine ⟨?_, ?_, h.le.trans h'.le, hagrees _ h'.le h'.last⟩
  · intro u
    obtain ⟨passed, hpassed, hlines⟩ := h.lines (t ++ u)
    obtain ⟨further, hfurther, hlines'⟩ := h'.lines u
    refine ⟨passed ++ further, by rw [List.append_assoc, hpassed, hfurther, List.append_assoc], ?_⟩
    intro line hline
    rcases List.mem_append.mp hline with hline | hline
    · obtain ⟨hlow, hhigh, hline⟩ := hlines line hline
      exact ⟨hlow, hhigh.trans_le h'.le, hline⟩
    · obtain ⟨hlow, hhigh, hline⟩ := hlines' line hline
      exact ⟨h.le.trans hlow, hhigh, hagrees line hlow hline⟩
  · rw [h'.place, h.place, Place.after_append]

theorem reads_push_of_ne (hcomment : p.line.comment = none) (hc : c ≠ '\n')
    (hmark : c = '#' → p.lexer.mode.inCode = false) (inLiteral : Bool) :
    p.Reads (p.push c) [c] none inLiteral := by
  have hnumber : (p.push c).number = p.number := by rw [push_of_ne hc]
  have hstring : (p.push c).line.inString = p.line.inString := by
    rw [push_of_ne hc]
    rfl
  refine ⟨fun t => ⟨[], linesWith_of_ne hc t, by simp⟩, place_push p c, hnumber.ge, ?_, ?_⟩
  · simp [(of_push hcomment hc hmark).1, hcomment]
  · simp [hnumber, hstring]

theorem reads_push_newline {inLiteral : Bool} (hline : p.OneLine)
    (hmode : p.lexer.mode.Carries inLiteral)
    (hescape : p.line.comment = none ∨ inLiteral = false) :
    p.Reads (p.push '\n') ['\n'] none inLiteral := by
  obtain ⟨hcomment, hstring, -⟩ := of_push_newline hmode hescape
  have hnumber : (p.push '\n').number = p.number + 1 := rfl
  refine ⟨?_, place_push p _, by omega, ?_, ?_⟩
  · intro t
    refine ⟨[p.line], linesWith_newline hline t, ?_⟩
    intro line hline
    obtain rfl := List.mem_singleton.mp hline
    exact ⟨le_rfl, by simp [hnumber], by simp, by simp⟩
  · simp [hcomment, hnumber]
  · simp [hstring, hnumber]

/-- A text that holds no comment is read up to the point behind it. -/
theorem reads_pushAll {inLiteral : Bool} (hline : p.OneLine) (hcomment : p.line.comment = none)
    (hsmooth : Lexer.Smooth inLiteral p.lexer s) (hreturn : '\r' ∉ s) :
    p.Reads (p.pushAll s) s none inLiteral ∧ (p.pushAll s).OneLine ∧
      (p.pushAll s).line.comment = none ∧ (p.pushAll s).lexer = Lexer.run p.lexer s := by
  induction s generalizing p with
  | nil => exact ⟨reads_nil p inLiteral, hline, hcomment, rfl⟩
  | cons c s ih =>
      obtain ⟨hmark, hcarries, hsmooth⟩ := hsmooth
      obtain ⟨hc, hreturn⟩ := List.ne_and_not_mem_of_not_mem_cons hreturn
      have hstep : p.Reads (p.push c) [c] none inLiteral ∧ (p.push c).line.comment = none ∧
          (p.push c).lexer = p.lexer.step c := by
        by_cases hnewline : c = '\n'
        · subst hnewline
          obtain ⟨hnone, -, hlexer⟩ := of_push_newline (hcarries rfl) (.inl hcomment)
          exact ⟨reads_push_newline hline (hcarries rfl) (.inl hcomment), hnone, hlexer⟩
        · exact ⟨reads_push_of_ne hcomment hnewline hmark inLiteral,
            of_push hcomment hnewline hmark⟩
      obtain ⟨hreads, hnone, hlexer⟩ := hstep
      obtain ⟨hrest, hend⟩ := ih (oneLine_push hline hc.symm) hnone (hlexer ▸ hsmooth) hreturn
      rw [hlexer] at hend
      exact ⟨hreads.append hrest, hend⟩

/-- A comment is read up to the end of its line. -/
theorem reads_comment (hline : p.OneLine) (hcomment : p.line.comment = none)
    (hcode : p.lexer.mode.inCode) {text : Text} (hnewline : '\n' ∉ text) (hreturn : '\r' ∉ text)
    (inLiteral : Bool) :
    ∃ q, p.Reads q ('#' :: text) (some ⟨p.place.column, '#' :: text⟩) inLiteral ∧ q.OneLine ∧
      q.lexer = p.lexer := by
  have hsplit := comment_line_eq_none_iff.mp hcomment
  have hlexer := lexer_of_comment_eq_none hcomment
  have hcut : Lexer.split p.lineStart (p.before ++ '#' :: text) =
      (p.before, some ('#' :: text)) := by
    rw [Lexer.split_append hsplit, ← hlexer, Lexer.split_comment hcode, List.append_nil]
  have hmark : '\n' ∉ '#' :: text := List.not_mem_cons_of_ne_of_not_mem (by decide) hnewline
  let q : Point := ⟨p.carry, p.number, p.before ++ '#' :: text⟩
  have hq : Lexer.split q.lineStart q.before = (p.before, some ('#' :: text)) := hcut
  refine ⟨q, ⟨?_, ?_, le_rfl, ?_, ?_⟩, ?_, ?_⟩
  · intro t
    exact ⟨[], by simp [linesWith, q], by simp⟩
  · rw [Place.after_of_not_mem hmark, place, Text.byteLength_append]
    rfl
  · rw [comment_line, hq]
    simp [hcomment, q, place]
  · simp [line, Carry.physicalLine, q]
  · exact ⟨List.not_mem_append hline.1 hmark,
      List.not_mem_append hline.2 (List.not_mem_cons_of_ne_of_not_mem (by decide) hreturn)⟩
  · rw [lexer_eq, hq, hlexer]
    rfl

end Point

/-! ## String literals -/

namespace Lexer

variable {mark : Char} {depth : Nat} {body : List Letter}

/-- A part of a literal is read smoothly and leaves the reader in a state. -/
def ReadsTo (lx : Lexer) (s : Text) (lx' : Lexer) : Prop := Smooth true lx s ∧ run lx s = lx'

variable {lx lx' lx'' : Lexer} {c : Char} {s t : Text}

theorem ReadsTo.trans (h : ReadsTo lx s lx') (h' : ReadsTo lx' t lx'') :
    ReadsTo lx (s ++ t) lx'' := by
  obtain ⟨hsmooth, rfl⟩ := h
  exact ⟨hsmooth.append h'.1, by rw [run_append, h'.2]⟩

theorem ReadsTo.cons (h : ReadsTo (lx.step c) t lx') (hmark : c = '#' → lx.mode.inCode = false)
    (hnewline : c = '\n' → lx.mode.Carries true) : ReadsTo lx (c :: t) lx' :=
  ⟨⟨hmark, hnewline, h.1⟩, h.2⟩

theorem readsTo_nil (lx : Lexer) : ReadsTo lx [] lx := ⟨trivial, rfl⟩

theorem readsTo_singleton (lx : Lexer) (hmark : c ≠ '#') (hnewline : c ≠ '\n') :
    ReadsTo lx [c] (lx.step c) :=
  (readsTo_nil _).cons (fun h => absurd h hmark) fun h => absurd h hnewline

theorem ne_of_isQuotationMark (h : IsQuotationMark mark) :
    mark ≠ '#' ∧ mark ≠ '\n' ∧ mark ≠ '\\' := by
  rcases h with rfl | rfl <;> decide

theorem readsTo_shortBody (depth : Nat)
    (h : ∀ c, Letter.plain c ∈ body → c ≠ mark ∧ c ≠ '\\' ∧ c ≠ '\n') :
    ReadsTo ⟨.short mark, depth⟩ (Letter.textOf body) ⟨.short mark, depth⟩ := by
  induction body with
  | nil => exact readsTo_nil _
  | cons letter body ih =>
      have hrest := ih fun c hc => h c (List.mem_cons_of_mem _ hc)
      cases letter with
      | plain c =>
          obtain ⟨hmark, hescape, hnewline⟩ := h c List.mem_cons_self
          have hstep : step ⟨.short mark, depth⟩ c = ⟨.short mark, depth⟩ := by
            simp [step, stepShort, hmark, hescape]
          rw [Letter.textOf_plain]
          refine ReadsTo.cons ?_ (fun _ => rfl) fun h => absurd h hnewline
          rw [hstep]
          exact hrest
      | escaped c =>
          have hnext : ReadsTo ⟨.shortEscape mark, depth⟩ (c :: Letter.textOf body)
              ⟨.short mark, depth⟩ := ReadsTo.cons hrest (fun _ => rfl) fun _ => rfl
          rw [Letter.textOf_escaped]
          exact ReadsTo.cons (by simpa [step, stepShort] using hnext) (by simp) (by simp)

/-- The literal is read from its first mark on. An empty one may be the start of a longer one. -/
theorem readsTo_short (hmark : IsQuotationMark mark)
    (h : ∀ c, Letter.plain c ∈ body → c ≠ mark ∧ c ≠ '\\' ∧ c ≠ '\n') :
    ReadsTo ⟨.opened mark, depth⟩ (Letter.textOf body ++ [mark])
      ⟨if body = [] then .doubled mark else .code, depth⟩ := by
  obtain ⟨hcomment, hnewline, hescape⟩ := ne_of_isQuotationMark hmark
  cases body with
  | nil =>
      have hlast := readsTo_singleton ⟨.opened mark, depth⟩ hcomment hnewline
      simpa [Letter.textOf, step] using hlast
  | cons letter body =>
      have hclose : ReadsTo ⟨.short mark, depth⟩ [mark] ⟨.code, depth⟩ := by
        have hlast := readsTo_singleton ⟨.short mark, depth⟩ hcomment hnewline
        simpa [step, stepShort, hescape] using hlast
      have hall := (readsTo_shortBody depth h).trans hclose
      -- The first character closes nothing, so it is read as inside the literal.
      obtain ⟨c, rest, hrest, hc, hline⟩ : ∃ c rest, Letter.textOf (letter :: body) = c :: rest ∧
          c ≠ mark ∧ c ≠ '\n' := by
        cases letter with
        | plain c =>
            have hplain := h c List.mem_cons_self
            exact ⟨c, _, rfl, hplain.1, hplain.2.2⟩
        | escaped c => exact ⟨'\\', _, rfl, hescape.symm, by decide⟩
      rw [hrest] at hall ⊢
      obtain ⟨⟨-, -, hsmooth⟩, hrun⟩ := hall
      have hstep : step ⟨.opened mark, depth⟩ c = step ⟨.short mark, depth⟩ c := by
        simp [step, hc]
      rw [← hstep] at hsmooth
      rw [if_neg (List.cons_ne_nil _ _)]
      refine ReadsTo.cons ⟨hsmooth, ?_⟩ (fun _ => rfl) fun h => absurd h hline
      rw [hstep]
      exact hrun

/-- The body of a long literal is read to the marks that close it, `seen` marks having been read
just before. -/
theorem readsTo_longBody {seen : Nat} (hmark : IsQuotationMark mark)
    (hplain : ∀ c, Letter.plain c ∈ body → c ≠ '\\') (hseen : seen ≤ 2)
    (hcloses : Fragment.ClosesAtEnd mark
      (List.replicate seen (.plain mark) ++ (body ++ List.replicate 3 (.plain mark)))) :
    ReadsTo ⟨.long mark seen, depth⟩ (Letter.textOf body ++ [mark, mark, mark])
      ⟨.code, depth⟩ := by
  obtain ⟨hcomment, hnewline, hescape⟩ := ne_of_isQuotationMark hmark
  have hstep : ∀ n, n < 2 → step ⟨.long mark n, depth⟩ mark = ⟨.long mark (n + 1), depth⟩ := by
    intro n hn
    simp [step, hescape, hn.ne]
  induction body generalizing seen with
  | nil =>
      have hback := hcloses [] (List.replicate seen (.plain mark)) (by
        rw [List.nil_append, List.replicate_append_replicate,
          List.replicate_append_replicate, Nat.add_comm])
      obtain rfl : seen = 0 := by simpa using hback
      have hlast : ReadsTo ⟨.long mark 2, depth⟩ [mark] ⟨.code, depth⟩ := by
        have hlast := readsTo_singleton ⟨.long mark 2, depth⟩ hcomment hnewline
        simpa [step, hescape] using hlast
      have hsecond : ReadsTo ⟨.long mark 1, depth⟩ [mark, mark] ⟨.code, depth⟩ :=
        ReadsTo.cons (by rwa [hstep 1 (by omega)]) (fun _ => rfl) fun h => absurd h hnewline
      exact ReadsTo.cons (by rwa [hstep 0 (by omega)]) (fun _ => rfl) fun h => absurd h hnewline
  | cons letter body ih =>
      have hplain' := fun c hc => hplain c (List.mem_cons_of_mem _ hc)
      have hrest : Fragment.ClosesAtEnd mark (body ++ List.replicate 3 (.plain mark)) := by
        rw [List.cons_append, List.append_cons] at hcloses
        exact hcloses.of_append
      have hfresh : ReadsTo ⟨.long mark 0, depth⟩ (Letter.textOf body ++ [mark, mark, mark])
          ⟨.code, depth⟩ := ih hplain' (by omega) hrest
      cases letter with
      | plain c =>
          have hc := hplain c List.mem_cons_self
          rw [Letter.textOf_plain]
          refine ReadsTo.cons ?_ (fun _ => rfl) fun h => ⟨rfl, hnewline⟩
          by_cases hclosing : c = mark
          case neg => simpa [step, hc, hclosing] using hfresh
          subst hclosing
          have hfew : seen < 2 := by
            rcases hseen.lt_or_eq with hlt | rfl
            · exact hlt
            · have hback := hcloses [] (body ++ List.replicate 3 (.plain c)) rfl
              simp at hback
          rw [hstep seen hfew]
          refine ih hplain' hfew ?_
          rw [List.replicate_succ', List.append_assoc]
          exact hcloses
      | escaped c =>
          have hnext : ReadsTo ⟨.longEscape mark, depth⟩
              (c :: (Letter.textOf body ++ [mark, mark, mark])) ⟨.code, depth⟩ :=
            ReadsTo.cons hfresh (fun _ => rfl) fun _ => rfl
          rw [Letter.textOf_escaped]
          exact ReadsTo.cons (by simpa [step] using hnext) (fun _ => rfl) (by simp)

/-- The reader stands between two fragments: in code, or behind an empty literal that the text
does not make longer. -/
def Between (lx : Lexer) (t : Text) : Prop :=
  lx.mode = .code ∨ ∃ mark, lx.mode = .doubled mark ∧ mark ≠ '\n' ∧ t.head? ≠ some mark

theorem Between.inCode (h : Between lx t) : lx.mode.inCode := by
  rcases h with h | ⟨mark, h, -⟩ <;> rw [h] <;> rfl

theorem Between.carries (h : Between lx t) : lx.mode.Carries false := by
  rcases h with h | ⟨mark, h, hmark, -⟩ <;> rw [h]
  · rfl
  · exact ⟨rfl, hmark⟩

theorem Between.step_eq (h : Between lx (c :: t)) : lx.step c = stepCode lx.depth c := by
  obtain ⟨mode, depth⟩ := lx
  rcases h with h | ⟨mark, h, -, hhead⟩ <;> obtain rfl : mode = _ := h
  · rfl
  · exact if_neg fun hc => hhead (by rw [hc]; rfl)

theorem Between.step_mark (h : Between lx (mark :: t)) (hmark : IsQuotationMark mark) :
    lx.step mark = ⟨.opened mark, lx.depth⟩ := by
  unfold IsQuotationMark at hmark
  rw [h.step_eq, stepCode, if_pos hmark]

theorem Between.step_code (h : Between lx (c :: t)) (hc : ¬ IsQuotationMark c) :
    (lx.step c).mode = .code := by
  unfold IsQuotationMark at hc
  rw [h.step_eq, stepCode, if_neg hc]
  repeat' split
  all_goals rfl

/-- A comment leaves the reader between two fragments. -/
theorem Between.of_lineEnd (h : Between lx s) (ht : ∀ c, t.head? = some c → c = '\n') :
    Between lx t := by
  rcases h with h | ⟨mark, h, hmark, -⟩
  · exact .inl h
  · exact .inr ⟨mark, h, hmark, fun hhead => hmark (ht mark hhead)⟩

theorem Between.short (h : Between lx (mark :: s)) (hmark : IsQuotationMark mark)
    (hbody : ∀ c, Letter.plain c ∈ body → c ≠ mark ∧ c ≠ '\\' ∧ c ≠ '\n') :
    ReadsTo lx (Fragment.short mark body).text
      ⟨if body = [] then .doubled mark else .code, lx.depth⟩ := by
  obtain ⟨hcomment, hnewline, -⟩ := ne_of_isQuotationMark hmark
  refine ReadsTo.cons ?_ (fun h => absurd h hcomment) fun h => absurd h hnewline
  rw [h.step_mark hmark]
  exact readsTo_short hmark hbody

theorem Between.long (h : Between lx (mark :: s)) (hmark : IsQuotationMark mark)
    (hplain : ∀ c, Letter.plain c ∈ body → c ≠ '\\')
    (hcloses : Fragment.ClosesAtEnd mark (body ++ List.replicate 3 (.plain mark))) :
    ReadsTo lx (Fragment.long mark body).text ⟨.code, lx.depth⟩ := by
  obtain ⟨hcomment, hnewline, -⟩ := ne_of_isQuotationMark hmark
  have hopen : ∀ {lx' : Lexer} {t : Text}, ReadsTo (lx'.step mark) t ⟨.code, lx.depth⟩ →
      ReadsTo lx' (mark :: t) ⟨.code, lx.depth⟩ := fun hrest =>
    hrest.cons (fun h => absurd h hcomment) fun h => absurd h hnewline
  have hbody : ReadsTo ⟨.long mark 0, lx.depth⟩ _ _ :=
    readsTo_longBody hmark hplain (by omega) hcloses
  refine hopen ?_
  rw [h.step_mark hmark]
  refine hopen (hopen ?_)
  simpa [step] using hbody

end Lexer

/-! ## From fragment to fragment -/

theorem Fragment.text_ne_nil (l : Fragment) : l.text ≠ [] := by
  cases l <;> simp [Fragment.text]

theorem Place.line_le_after (place : Place) (t : Text) : place.line ≤ (place.after t).line := by
  induction t generalizing place with
  | nil => exact le_rfl
  | cons c t ih =>
      refine le_trans ?_ (ih _)
      dsimp only
      split <;> simp

theorem Fragment.line_le_of_mem_placed {place : Place} {ls : List Fragment} {l : Place × Fragment}
    (h : l ∈ Fragment.placed place ls) : place.line ≤ l.1.line := by
  induction ls generalizing place with
  | nil => simp [placed] at h
  | cons first rest ih =>
      rcases List.mem_cons.mp h with rfl | h
      · exact le_rfl
      · exact (place.line_le_after first.text).trans (ih h)

/-- A comment fragment stands on a line, and a scan finds it as this comment. -/
def CommentOn (fragments : List (Place × Fragment)) (number : Nat) (comment : Comment) : Prop :=
  ∃ l ∈ fragments, l.1.line = number ∧ l.2.comment? l.1 = some comment

/-- A literal starts above a line and ends on it or below. -/
def StartsInLiteral (fragments : List (Place × Fragment)) (number : Nat) : Prop :=
  ∃ l ∈ fragments, l.2.isLiteral ∧ l.1.line < number ∧ number ≤ (l.1.after l.2.text).line

section

variable {place : Place} {l : Fragment} {fragments : List (Place × Fragment)} {low number : Nat}

theorem commentOn_cons (comment : Comment) :
    CommentOn ((place, l) :: fragments) number comment ↔
      place.line = number ∧ l.comment? place = some comment ∨
        CommentOn fragments number comment := by
  simp [CommentOn]

theorem startsInLiteral_cons :
    StartsInLiteral ((place, l) :: fragments) number ↔
      (l.isLiteral ∧ place.line < number ∧ number ≤ (place.after l.text).line) ∨
        StartsInLiteral fragments number := by
  simp [StartsInLiteral]

theorem not_commentOn (h : ∀ x ∈ fragments, low ≤ x.1.line) (hlow : number < low)
    (comment : Comment) : ¬ CommentOn fragments number comment := by
  rintro ⟨x, hx, rfl, -⟩
  exact absurd (h x hx) (by omega)

theorem not_startsInLiteral (h : ∀ x ∈ fragments, low ≤ x.1.line) (hlow : number ≤ low) :
    ¬ StartsInLiteral fragments number := by
  rintro ⟨x, hx, -, hnumber, -⟩
  exact absurd (h x hx) (by omega)

end

namespace Point

variable {p q : Point} {t : Text} {l : Fragment} {ls : List Fragment}

/-- The point stands between two fragments. A comment in front of it ends where its line does. -/
structure Between (p : Point) (t : Text) : Prop where
  oneLine : p.OneLine
  lexer : p.lexer.Between t
  comment : p.line.comment = none ∨ ∀ c, t.head? = some c → c = '\n'

theorem Between.comment_eq_none {c : Char} (h : p.Between (c :: t)) (hc : c ≠ '\n') :
    p.line.comment = none :=
  h.comment.resolve_right fun hend => hc (hend c rfl)

theorem reads_of_readsTo {s : Text} {lx : Lexer} (h : p.OneLine)
    (hcomment : p.line.comment = none) (hreads : Lexer.ReadsTo p.lexer s lx)
    (hreturn : '\r' ∉ s) (hlx : lx.Between t) :
    ∃ q, p.Reads q s none true ∧ q.Between t := by
  obtain ⟨hread, hline, hnone, hlexer⟩ := reads_pushAll h hcomment hreads.1 hreturn
  rw [hreads.2] at hlexer
  exact ⟨p.pushAll s, hread, hline, hlexer ▸ hlx, .inl hnone⟩

/-- A fragment is read to a point between it and the next one. -/
theorem Between.reads_fragment (h : p.Between (l.text ++ t)) (hcomplete : l.Complete)
    (hends : l.EndsBefore t) (hreturn : '\r' ∉ l.text) :
    ∃ q, p.Reads q l.text (l.comment? p.place) l.isLiteral ∧ q.Between t := by
  cases l with
  | code c =>
      obtain ⟨hmark, hquote, hnewline⟩ := hcomplete
      have hcomment := h.comment_eq_none hnewline
      have hmark' : c = '#' → p.lexer.mode.inCode = false := fun hc => absurd hc hmark
      obtain ⟨hnone, hlexer⟩ := of_push hcomment hnewline hmark'
      refine ⟨p.push c, reads_push_of_ne hcomment hnewline hmark' _, ?_, .inl ?_, .inl hnone⟩
      · exact oneLine_push h.oneLine (by simpa [Fragment.text, eq_comm] using hreturn)
      · rw [hlexer, h.lexer.step_code hquote]
  | newline =>
      obtain ⟨hnone, -, hlexer⟩ := of_push_newline h.lexer.carries (.inr rfl)
      refine ⟨p.push '\n', reads_push_newline h.oneLine h.lexer.carries (.inr rfl), ?_, .inl ?_,
        .inl hnone⟩
      · exact oneLine_push h.oneLine (by decide)
      · rw [hlexer, h.lexer.step_code (by simp [IsQuotationMark])]
  | short mark body =>
      obtain ⟨hmark, hbody⟩ := hcomplete
      have hnewline := (Lexer.ne_of_isQuotationMark hmark).2.1
      refine reads_of_readsTo h.oneLine (h.comment_eq_none hnewline)
        (h.lexer.short hmark hbody) hreturn ?_
      cases body with
      | nil => exact .inr ⟨mark, rfl, hnewline, hends⟩
      | cons letter body => exact .inl rfl
  | long mark body =>
      obtain ⟨hmark, hplain, hcloses⟩ := hcomplete
      have hnewline := (Lexer.ne_of_isQuotationMark hmark).2.1
      exact reads_of_readsTo h.oneLine (h.comment_eq_none hnewline)
        (h.lexer.long hmark hplain hcloses) hreturn (.inl rfl)
  | comment text =>
      have hcomment := h.comment_eq_none (c := '#') (by decide)
      obtain ⟨q, hreads, hline, hlexer⟩ := reads_comment h.oneLine hcomment h.lexer.inCode
        hcomplete (fun hmem => hreturn (List.mem_cons_of_mem _ hmem)) false
      exact ⟨q, hreads, hline, hlexer ▸ h.lexer.of_lineEnd hends, .inr hends⟩

theorem exists_line_of_ne_nil (h : t ≠ []) : ∃ line ∈ p.linesWith t, line.number = p.number := by
  obtain ⟨raw, rest, hlines⟩ := List.exists_cons_of_ne_nil
    (Text.lines_ne_nil (List.append_ne_nil_of_right_ne_nil p.before h))
  rw [linesWith, hlines, physicalLines]
  exact ⟨_, List.mem_cons_self, rfl⟩

theorem Agrees.comment_iff {found : Option Comment} {inLiteral : Bool} {line : PhysicalLine}
    (h : p.Agrees found inLiteral line) (hfound : found = none ∨ p.line.comment = none)
    (comment : Comment) :
    line.comment = some comment ↔
      line.number = p.number ∧ (p.line.comment = some comment ∨ found = some comment) := by
  rw [h.comment_eq]
  rcases hfound with hfound | hfound <;> simp [hfound]

theorem Agrees.inString_iff {found : Option Comment} {inLiteral : Bool} {line : PhysicalLine}
    (h : p.Agrees found inLiteral line) :
    line.inString ↔
      line.number = p.number ∧ p.line.inString ∨ line.number ≠ p.number ∧ inLiteral := by
  rw [h.inString_eq]
  by_cases hnumber : line.number = p.number <;> simp [hnumber]

/-- What the lines from a point on say about the fragments behind it. -/
structure Reports (p : Point) (lines : List PhysicalLine) (fragments : List (Place × Fragment)) :
    Prop where
  comment_iff : ∀ line ∈ lines, ∀ comment, line.comment = some comment ↔
    line.number = p.number ∧ p.line.comment = some comment ∨
      CommentOn fragments line.number comment
  inString_iff : ∀ line ∈ lines, line.inString ↔
    line.number = p.number ∧ p.line.inString ∨ StartsInLiteral fragments line.number
  exists_line : ∀ l ∈ fragments, ∃ line ∈ lines, line.number = l.1.line

theorem Reads.reports (h : p.Reads q l.text (l.comment? p.place) l.isLiteral)
    (hfound : l.comment? p.place = none ∨ p.line.comment = none)
    (hnext : q.Reports (q.linesWith t) (Fragment.placed q.place ls)) :
    p.Reports (p.linesWith (l.text ++ t)) (Fragment.placed p.place (l :: ls)) := by
  obtain ⟨passed, hlines, hpassed⟩ := h.lines t
  have hle := h.le
  have hq : (p.place.after l.text).line = q.number := by rw [← h.place]; rfl
  have hbehind : ∀ x ∈ Fragment.placed q.place ls, q.number ≤ x.1.line :=
    fun x hx => Fragment.line_le_of_mem_placed hx
  have hlast : ∀ line ∈ q.linesWith t, q.number ≤ line.number :=
    fun line hline => (number_of_mem_physicalLines hline).1
  rw [Fragment.placed, ← h.place]
  refine ⟨?_, ?_, ?_⟩
  · intro line hline comment
    rw [commentOn_cons]
    rcases List.mem_append.mp (hlines ▸ hline) with hline | hline
    · obtain ⟨hlow, hhigh, hagrees⟩ := hpassed line hline
      have hnone := not_commentOn hbehind hhigh comment
      rw [hagrees.comment_iff hfound]
      grind [line_place]
    · rw [hnext.comment_iff line hline, h.last.comment_iff hfound]
      have hnumber := hlast line hline
      grind [line_place, number_line]
  · intro line hline
    rw [startsInLiteral_cons, hq]
    rcases List.mem_append.mp (hlines ▸ hline) with hline | hline
    · obtain ⟨hlow, hhigh, hagrees⟩ := hpassed line hline
      have hnone := not_startsInLiteral hbehind hhigh.le
      rw [hagrees.inString_iff]
      grind [line_place]
    · rw [hnext.inString_iff line hline, h.last.inString_iff]
      have hnumber := hlast line hline
      grind [line_place, number_line]
  · intro x hx
    rcases List.mem_cons.mp hx with rfl | hx
    · exact exists_line_of_ne_nil (List.append_ne_nil_of_left_ne_nil l.text_ne_nil t)
    · obtain ⟨line, hline, hnumber⟩ := hnext.exists_line x hx
      exact ⟨line, hlines ▸ List.mem_append_right passed hline, hnumber⟩

theorem Between.reports (h : p.Between (Fragment.textOf ls)) (hls : Fragment.WellFormed ls)
    (hreturn : '\r' ∉ Fragment.textOf ls) :
    p.Reports (p.linesWith (Fragment.textOf ls)) (Fragment.placed p.place ls) := by
  induction ls generalizing p with
  | nil =>
      have hlines : ∀ line ∈ p.linesWith [], line = p.line := by
        rw [linesWith_nil h.oneLine]
        split <;> simp
      refine ⟨?_, ?_, by simp [Fragment.placed]⟩
      · intro line hline comment
        obtain rfl := hlines line hline
        simp [CommentOn, Fragment.placed]
      · intro line hline
        obtain rfl := hlines line hline
        simp [StartsInLiteral, Fragment.placed]
  | cons l ls ih =>
      obtain ⟨hcomplete, hends, hrest⟩ := hls
      have htext : Fragment.textOf (l :: ls) = l.text ++ Fragment.textOf ls := rfl
      rw [htext] at h hreturn ⊢
      rw [List.mem_append, not_or] at hreturn
      obtain ⟨q, hreads, hq⟩ := h.reads_fragment hcomplete hends hreturn.1
      refine hreads.reports ?_ (ih hq hrest hreturn.2)
      cases l with
      | comment text => exact .inr (h.comment_eq_none (c := '#') (by decide))
      | _ => exact .inl rfl

end Point

/-- The comments and the literals that a scan sees are those of the source. -/
structure Scan.Sees (s : Scan) (fragments : List (Place × Fragment)) : Prop where
  comment_iff : ∀ line ∈ s.physical, ∀ comment,
    line.comment = some comment ↔ CommentOn fragments line.number comment
  inString_iff : ∀ line ∈ s.physical, line.inString ↔ StartsInLiteral fragments line.number
  /-- No fragment stands outside the lines. -/
  exists_line : ∀ l ∈ fragments, ∃ line ∈ s.physical, line.number = l.1.line

/-- A scan finds the comments of a source and the lines that start in a literal, whatever the
literals hold. -/
theorem scan_sees_placed {ls : List Fragment} (h : Fragment.WellFormed ls)
    (hreturn : '\r' ∉ Fragment.textOf ls) :
    (scan (Fragment.textOf ls)).Sees (Fragment.placed ⟨1, 0⟩ ls) := by
  let start : Point := ⟨.initial, 1, []⟩
  have hcomment : start.line.comment = none := rfl
  have hstring : start.line.inString = false := rfl
  have hbetween : start.Between (Fragment.textOf ls) :=
    ⟨⟨List.not_mem_nil, List.not_mem_nil⟩, .inl rfl, .inl hcomment⟩
  have hreports : start.Reports _ (Fragment.placed ⟨1, 0⟩ ls) := hbetween.reports h hreturn
  refine ⟨?_, ?_, hreports.exists_line⟩
  · intro line hline comment
    simpa [hcomment] using hreports.comment_iff line hline comment
  · intro line hline
    simpa [hstring] using hreports.inString_iff line hline

/-- Two comments, behind a literal that holds a `#` and an escaped newline and behind an empty
one. Between them, a long literal with marks that do not close it. -/
def Fragment.twoComments : List Fragment :=
  [.short '\'' [.plain '#', .escaped '\n', .plain '"', .escaped '\''], .code ' ',
    .comment [' ', 'é'], .newline,
    .long '"' [.plain '#', .plain '"', .escaped '"', .plain '"', .plain '"', .plain '\n'],
    .newline, .code '(', .short '"' [], .comment []]

theorem Fragment.wellFormed_twoComments : Fragment.WellFormed Fragment.twoComments := by
  have hcloses : ClosesAtEnd '"' [.plain '#', .plain '"', .escaped '"', .plain '"', .plain '"',
      .plain '\n', .plain '"', .plain '"', .plain '"'] := by decide
  simp [twoComments, WellFormed, Complete, EndsBefore, IsQuotationMark, textOf, text, hcloses]

theorem scan_sees_placed_twoComments :
    let s := scan (Fragment.textOf Fragment.twoComments)
    s.Sees (Fragment.placed ⟨1, 0⟩ Fragment.twoComments) ∧
      s.physical.map (fun line => (line.comment.map (·.column), line.inString)) =
        [(none, false), (some 5, true), (none, false), (none, true), (some 3, false)] :=
  ⟨scan_sees_placed Fragment.wellFormed_twoComments (by decide), by decide⟩

end CodingStandard
