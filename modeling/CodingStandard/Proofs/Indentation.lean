import CodingStandard.Proofs.Offsets

namespace CodingStandard

/-!
# Where the lines of a scan start

The physical lines of a scan are the lines of the source, each under its number. A logical line
starts on a line of the source and is as wide indented as that line, which is at most as wide as
the line is long unless a tab stands among its leading blanks.
-/

/-! ## Widths -/

/-- The blanks that a line is indented with. -/
def Text.indentation (t : Text) : Text :=
  t.takeWhile fun c => c == ' ' || c == '\t' || c == '\x0c'

theorem indentWidthFrom_le (width : Nat) {t : Text} (h : '\t' ∉ Text.indentation t) :
    indentWidthFrom width t ≤ width + Text.byteLength t := by
  induction t generalizing width with
  | nil => simp [indentWidthFrom]
  | cons c t ih =>
      rw [indentWidthFrom]
      split_ifs with hspace htab hfeed
      · subst hspace
        refine (ih (width + 1) (by simpa [Text.indentation] using h)).trans ?_
        have hsize : ' '.utf8Size = 1 := by decide
        rw [Text.byteLength_cons, hsize, Nat.add_assoc]
      · simp [Text.indentation, htab] at h
      · subst hfeed
        refine (ih 0 (by simpa [Text.indentation] using h)).trans ?_
        rw [Text.byteLength_cons]
        omega
      · exact Nat.le_add_right ..

theorem indentWidth_le {t : Text} (h : '\t' ∉ Text.indentation t) :
    indentWidth t ≤ Text.byteLength t :=
  (indentWidthFrom_le 0 h).trans_eq (Nat.zero_add _)

/-! ## Physical lines -/

theorem number_of_mem_scan {source : Text} {line : PhysicalLine}
    (h : line ∈ (scan source).physical) :
    0 < line.number ∧ (Text.lines source)[line.number - 1]? = some line.text :=
  number_of_mem_physicalLines h

theorem column_le_of_mem_scan {source : Text} {line : PhysicalLine}
    (h : line ∈ (scan source).physical) {comment : Comment} (hcomment : line.comment = some comment) :
    comment.column ≤ Text.byteLength line.text := by
  obtain ⟨carry, raw, hline⟩ := exists_eq_physicalLine h
  rw [hline, Carry.physicalLine, Option.map_eq_some_iff] at hcomment
  obtain ⟨text, _, rfl⟩ := hcomment
  have hraw : line.text = raw := congrArg PhysicalLine.text hline
  rw [hraw]
  exact Text.byteLength_le_of_prefix ⟨_, Lexer.split_join _ raw⟩

/-! ## Logical lines -/

/-- The logical line starts on one of the lines, and is indented like that line. -/
def LogicalLine.OpensOn (l : LogicalLine) (lines : List Text) : Prop :=
  0 < l.start ∧ ∃ raw, lines[l.start - 1]? = some raw ∧ l.indent = indentWidth raw

namespace Carry

variable {carry : Carry} {number : Nat} {raw : Text} {lines : List Text} {l : LogicalLine}

theorem opensOn_extend (hpending : ∀ l, carry.pending = some l → l.OpensOn lines)
    (hnumber : 0 < number) (hraw : lines[number - 1]? = some raw) (part : Text) :
    (carry.extend number raw part).OpensOn lines := by
  unfold extend
  cases h : carry.pending with
  | none => exact ⟨hnumber, raw, hraw, rfl⟩
  | some l => exact hpending l h

theorem opensOn_next (hpending : ∀ l, carry.pending = some l → l.OpensOn lines)
    (hnumber : 0 < number) (hraw : lines[number - 1]? = some raw) :
    (∀ l, (carry.next number raw).2 = some l → l.OpensOn lines) ∧
      ∀ l, (carry.next number raw).1.pending = some l → l.OpensOn lines := by
  by_cases hgap : (carry.physicalLine number raw).isBlank ∨
      (carry.physicalLine number raw).isCommentOnly
  · rcases hgap with h | h
    · rw [next_of_isBlank h]
      exact ⟨by simp, hpending⟩
    · rw [next_of_isCommentOnly h]
      exact ⟨by simp, hpending⟩
  · -- The line opens a logical line, or goes on with the one that is pending.
    obtain ⟨part, h, -⟩ := next_of_code hgap
    have hextend := opensOn_extend hpending hnumber hraw part
    rcases h with ⟨hdone, hnone, -⟩ | ⟨hnone, hopen⟩
    · rw [hdone, hnone]
      exact ⟨fun l hl => Option.some.inj hl ▸ hextend, by simp⟩
    · rw [hnone, hopen]
      exact ⟨by simp, fun l hl => Option.some.inj hl ▸ hextend⟩

theorem opensOn_of_mem_logicalLines (front : List Text) {raws : List Text}
    (hpending : ∀ l, carry.pending = some l → l.OpensOn (front ++ raws))
    (h : l ∈ logicalLines carry (front.length + 1) raws) : l.OpensOn (front ++ raws) := by
  induction raws generalizing carry front with
  | nil => exact hpending l (Option.mem_toList.mp h)
  | cons raw raws ih =>
      have hraw : (front ++ raw :: raws)[front.length + 1 - 1]? = some raw := by simp
      obtain ⟨hdone, hnext⟩ := opensOn_next hpending (Nat.succ_pos front.length) hraw
      rw [logicalLines] at h
      generalize carry.next (front.length + 1) raw = step at h hdone hnext
      rw [List.append_cons] at hdone hnext ⊢
      rcases List.mem_append.mp h with h | h
      · exact hdone l (Option.mem_toList.mp h)
      · exact ih (front ++ [raw]) hnext (by rwa [List.length_append])

end Carry

theorem opensOn_of_mem_scan {source : Text} {l : LogicalLine} (h : l ∈ (scan source).logical) :
    l.OpensOn (Text.lines source) :=
  Carry.opensOn_of_mem_logicalLines [] (by simp [Carry.initial]) h

end CodingStandard
