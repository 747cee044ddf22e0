import CodingStandard.Text
import Mathlib.Data.List.Basic

namespace CodingStandard.Text

/-!
# The lines of a text

A newline ends a line, and what stands behind it are the lines of the rest.
-/

theorem pieces_append_newline {line : Text} (h : '\n' ∉ line) (t : Text) :
    pieces (line ++ '\n' :: t) = (line ++ ['\n']) :: pieces t := by
  induction line with
  | nil => rfl
  | cons c line ih =>
      obtain ⟨hc, hline⟩ := List.ne_and_not_mem_of_not_mem_cons h
      rw [List.cons_append, pieces, if_neg hc.symm, ih hline]
      rfl

theorem pieces_of_not_mem {line : Text} (h : '\n' ∉ line) :
    pieces line = if line = [] then [] else [line] := by
  induction line with
  | nil => rfl
  | cons c line ih =>
      obtain ⟨hc, hline⟩ := List.ne_and_not_mem_of_not_mem_cons h
      rw [pieces, if_neg hc.symm, ih hline]
      by_cases hnil : line = [] <;> simp [hnil]

theorem before?_eq_none {mark : Char} {t : Text} (h : t.getLast? ≠ some mark) :
    before? [mark] t = none := by
  rw [← List.head?_reverse] at h
  unfold before?
  cases hlast : t.reverse with
  | nil => rfl
  | cons c rest =>
      rw [hlast] at h
      have hne : mark ≠ c := fun heq => h (by rw [heq]; rfl)
      simp [after?, hne]

theorem dropTerminator_of_not_mem {line : Text} (h : '\n' ∉ line) :
    dropTerminator line = line := by
  rw [dropTerminator, before?_eq_none fun hlast => h (List.mem_of_getLast? hlast)]

theorem dropTerminator_append_newline {line : Text} (h : '\r' ∉ line) :
    dropTerminator (line ++ ['\n']) = line := by
  have hline : before? ['\n'] (line ++ ['\n']) = some line := by
    simp [before?, after?]
  rw [dropTerminator, hline]
  simp [before?_eq_none fun hlast => h (List.mem_of_getLast? hlast)]

theorem lines_append_newline {line : Text} (h : '\n' ∉ line) (hreturn : '\r' ∉ line) (t : Text) :
    lines (line ++ '\n' :: t) = line :: lines t := by
  rw [lines, pieces_append_newline h, List.map_cons, dropTerminator_append_newline hreturn]
  rfl

theorem lines_of_not_mem {line : Text} (h : '\n' ∉ line) :
    lines line = if line = [] then [] else [line] := by
  rw [lines, pieces_of_not_mem h]
  split
  · rfl
  · rw [List.map_singleton, dropTerminator_of_not_mem h]

theorem lines_ne_nil {t : Text} (h : t ≠ []) : lines t ≠ [] := by
  cases t with
  | nil => contradiction
  | cons c t =>
      rw [lines, ne_eq, List.map_eq_nil_iff, pieces]
      split
      · simp
      · split <;> simp

end CodingStandard.Text
