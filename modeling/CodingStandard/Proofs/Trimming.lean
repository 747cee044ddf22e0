import CodingStandard.Proofs.Directives

namespace CodingStandard

/-!
# White space at the ends of a line

The code of a line enters its statement without the white space around it and without the
backslashes at its end. What stands between two characters that stay is not touched, so a line can
be cut there, and the parts be trimmed one by one.
-/

namespace Text

variable {s t gap : Text} {c : Char}

/-- What is dropped from the end lies behind the last character that stays. -/
theorem dropEndWhile_append_cons {p : Char → Bool} (h : p c = false) (s t : Text) :
    dropEndWhile p (s ++ c :: t) = s ++ c :: dropEndWhile p t := by
  have hne : p c ≠ true := by simp [h]
  rw [dropEndWhile, dropEndWhile, List.reverse_append, List.reverse_cons, List.append_assoc,
    List.dropWhile_append]
  split
  case isTrue hall =>
    rw [List.isEmpty_iff.mp hall, List.singleton_append, List.dropWhile_cons_of_neg hne]
    simp
  case isFalse => simp

theorem trimEnd_append_of_isWhite (h : isWhite gap) (t : Text) :
    trimEnd (t ++ gap) = trimEnd t := by
  have hgap : ∀ c ∈ gap.reverse, isBlank c = true := by
    simpa [isWhite] using h
  rw [trimEnd, trimEnd, dropEndWhile, dropEndWhile, List.reverse_append,
    List.dropWhile_append_of_pos hgap]

theorem trim_append_of_isWhite (h : isWhite gap) (t : Text) : trim (t ++ gap) = trim t := by
  have hgap : gap.dropWhile isBlank = [] := by simpa [isWhite] using h
  rw [trim, trimStart, List.dropWhile_append]
  split
  case isTrue hall => rw [hgap, trim, trimStart, List.isEmpty_iff.mp hall]
  case isFalse => exact trimEnd_append_of_isWhite h _

theorem trimStart_append (h : isWhite s = false) (t : Text) :
    trimStart (s ++ t) = trimStart s ++ t := by
  have hne : ¬ (s.dropWhile isBlank).isEmpty := by
    simpa [isWhite, List.isEmpty_iff] using h
  rw [trimStart, List.dropWhile_append, if_neg hne]
  rfl

theorem trimStart_append_of_isWhite (h : isWhite gap) (t : Text) :
    trimStart (gap ++ t) = trimStart t :=
  List.dropWhile_append_of_pos (List.all_eq_true.mp h)

theorem isWhite_eq_false_of_mem (h : c ∈ t) (hc : isBlank c = false) : isWhite t = false := by
  rw [isWhite, List.all_eq_false]
  exact ⟨c, h, by simp [hc]⟩

theorem ne_of_isBlank {d : Char} (hc : isBlank c = false) (hd : isBlank d = true) : c ≠ d := by
  rintro rfl
  rw [hc] at hd
  cases hd

end Text

theorem indentWidthFrom_append {s : Text} (h : Text.isWhite s = false) (width : Nat) (t : Text) :
    indentWidthFrom width (s ++ t) = indentWidthFrom width s := by
  induction s generalizing width with
  | nil => simp [Text.isWhite] at h
  | cons c s ih =>
      rw [List.cons_append, indentWidthFrom, indentWidthFrom]
      by_cases hc : Text.isBlank c
      · have hs : Text.isWhite s = false := by simpa [Text.isWhite, hc] using h
        simp only [ih hs]
      · -- A character that is not white ends the indentation, whatever follows.
        have hsolid : Text.isBlank c = false := by simpa using hc
        have hne : ∀ d ∈ [' ', '\t', '\x0c'], c ≠ d := by
          have hall : [' ', '\t', '\x0c'].all Text.isBlank := by decide
          exact fun d hd => Text.ne_of_isBlank hsolid (List.all_eq_true.mp hall d hd)
        simp only [List.forall_mem_cons] at hne
        simp [hne]

theorem indentWidth_append {s : Text} (h : Text.isWhite s = false) (t : Text) :
    indentWidth (s ++ t) = indentWidth s :=
  indentWidthFrom_append h 0 t

/-! ## Reading white space -/

namespace Lexer

variable {lx : Lexer} {gap : Text} {c : Char}

theorem split_of_not_mem {t : Text} (h : '#' ∉ t) (lx : Lexer) : split lx t = (t, none) := by
  induction t generalizing lx with
  | nil => rfl
  | cons c t ih =>
      obtain ⟨hc, ht⟩ := List.ne_and_not_mem_of_not_mem_cons h
      simp [split, hc.symm, ih ht]

/-- A character that opens and closes nothing leaves the reader in code. -/
theorem Marked.step_plain (h : lx.Marked) (hcode : lx.mode.inCode)
    (hc : ∀ depth, stepCode depth c = ⟨.code, depth⟩) : lx.step c = ⟨.code, lx.depth⟩ := by
  obtain ⟨mode, depth⟩ := lx
  cases mode with
  | code => exact hc depth
  | doubled mark =>
      -- A second mark in a row would open a literal, and this character opens nothing.
      have hne : c ≠ mark := by
        rintro rfl
        have hopened : stepCode depth c = ⟨.opened c, depth⟩ := if_pos (h c (.inr rfl))
        simp [hc] at hopened
      exact (if_neg hne).trans (hc depth)
  | _ => simp [Mode.inCode] at hcode

theorem stepCode_of_isBlank (hc : Text.isBlank c) (depth : Nat) :
    stepCode depth c = ⟨.code, depth⟩ :=
  run_of_isWhite (t := [c]) (by simpa [Text.isWhite] using hc) depth

theorem Marked.run_white (h : lx.Marked) (hcode : lx.mode.inCode) (hgap : Text.isWhite gap) :
    (lx.run gap).mode.inCode ∧ (lx.run gap).depth = lx.depth := by
  cases gap with
  | nil => exact ⟨hcode, rfl⟩
  | cons c gap =>
      obtain ⟨hc, hrest⟩ : Text.isBlank c ∧ Text.isWhite gap := by simpa [Text.isWhite] using hgap
      rw [run_cons, h.step_plain hcode (stepCode_of_isBlank hc), run_of_isWhite hrest]
      exact ⟨rfl, rfl⟩

theorem not_mem_of_isWhite (h : Text.isWhite gap) : '#' ∉ gap := by
  intro hmem
  exact absurd (List.all_eq_true.mp h '#' hmem) (by decide)

end Lexer

namespace Carry

variable {carry : Carry} {front gap : Text}

/-- Where the reader of a line stands before its first character. -/
def lineStart (carry : Carry) : Lexer := ⟨Mode.start carry.string, carry.depth⟩

theorem codeOf_eq_lineStart (carry : Carry) (raw : Text) :
    carry.codeOf raw = (carry.lineStart.split raw).1 := rfl

theorem lexerAfter_eq_lineStart (carry : Carry) (raw : Text) :
    carry.lexerAfter raw = carry.lineStart.run (carry.codeOf raw) := rfl

theorem comment_eq_none_iff : (carry.physicalLine 0 front).comment = none ↔
    carry.lineStart.split front = (front, none) :=
  Point.comment_line_eq_none_iff (p := ⟨carry, 0, front⟩)

theorem inCodeAt_iff : carry.InCodeAt front ↔
    carry.lineStart.split front = (front, none) ∧ (carry.lineStart.run front).mode.inCode := by
  constructor
  · rintro ⟨hnone, hcode⟩
    have hsplit := comment_eq_none_iff.mp hnone
    rw [lexerAfter_eq_lineStart, codeOf_eq_lineStart, hsplit] at hcode
    exact ⟨hsplit, hcode⟩
  · rintro ⟨hsplit, hcode⟩
    refine ⟨comment_eq_none_iff.mpr hsplit, ?_⟩
    rwa [lexerAfter_eq_lineStart, codeOf_eq_lineStart, hsplit]

theorem InCodeAt.codeOf_eq (h : carry.InCodeAt front) : carry.codeOf front = front := by
  rw [codeOf_eq_lineStart, (inCodeAt_iff.mp h).1]

theorem InCodeAt.lexerAfter_eq (h : carry.InCodeAt front) :
    carry.lexerAfter front = carry.lineStart.run front := by
  rw [lexerAfter_eq_lineStart, h.codeOf_eq]

theorem InCodeAt.append_white (h : carry.InCodeAt front) (hgap : Text.isWhite gap) :
    carry.InCodeAt (front ++ gap) ∧
      (carry.lexerAfter (front ++ gap)).depth = (carry.lexerAfter front).depth := by
  obtain ⟨hsplit, hcode⟩ := inCodeAt_iff.mp h
  have hmarked : (carry.lineStart.run front).Marked := (Lexer.marked_start _ _).run front
  obtain ⟨hcode', hdepth⟩ := hmarked.run_white hcode hgap
  have hgap' : carry.InCodeAt (front ++ gap) := by
    rw [inCodeAt_iff, Lexer.split_append hsplit,
      Lexer.split_of_not_mem (Lexer.not_mem_of_isWhite hgap), Lexer.run_append]
    exact ⟨rfl, hcode'⟩
  rw [hgap'.lexerAfter_eq, h.lexerAfter_eq, Lexer.run_append]
  exact ⟨hgap', hdepth⟩

end Carry

end CodingStandard
