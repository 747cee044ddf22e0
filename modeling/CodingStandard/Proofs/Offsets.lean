import CodingStandard.Proofs.Fragments
import CodingStandard.Sink
import Mathlib.Data.List.TakeWhile

namespace CodingStandard

/-!
# Lines, columns and offsets

On a line of a text, a column is as far behind the start of the line in the text as it says. A
place that does not cut the terminator of a line lies within the line or right behind it.
-/

namespace Text

variable {t : Text} {line column : Nat}

theorem length_pieces (t : Text) : (pieces t).length = (lines t).length := by simp [lines]

theorem offsetIn_eq {ps : List Text} (start : Nat) (hline : 0 < line) (h : line ≤ ps.length) :
    offsetIn start line column ps = offsetIn start line 1 ps + (column - 1) := by
  induction ps generalizing start line with
  | nil =>
      rw [List.length_nil] at h
      omega
  | cons piece ps ih =>
      obtain _ | _ | line := line
      · omega
      · simp [offsetIn]
      · exact ih _ (Nat.succ_pos line) (Nat.le_of_succ_le_succ h)

theorem offsetIn_of_lt {ps : List Text} (start : Nat) (h : ps.length < line) :
    offsetIn start line column ps = 0 := by
  induction ps generalizing start line with
  | nil => simp [offsetIn]
  | cons piece ps ih =>
      rw [List.length_cons] at h
      obtain _ | _ | line := line
      · rfl
      · omega
      · exact ih _ (Nat.lt_of_succ_lt_succ h)

theorem offsetAt_eq (hline : 0 < line) (h : line ≤ (lines t).length) (column : Nat) :
    offsetAt t line column = offsetAt t line 1 + (column - 1) :=
  offsetIn_eq 0 hline (length_pieces t ▸ h)

theorem offsetAt_of_lt (h : (lines t).length < line) (column : Nat) : offsetAt t line column = 0 :=
  offsetIn_of_lt 0 (length_pieces t ▸ h)

theorem lineLength_eq {l : Text} (hline : 0 < line) (h : (lines t)[line - 1]? = some l) :
    lineLength t line = byteLength l := by
  obtain ⟨line, rfl⟩ := Nat.exists_eq_succ_of_ne_zero hline.ne'
  rw [Nat.succ_sub_one] at h
  rw [lineLength, h]
  rfl

theorem byteLength_le_of_prefix {s l : Text} (h : s <+: l) : byteLength s ≤ byteLength l := by
  obtain ⟨rest, rfl⟩ := h
  simp

/-! ## Starts, ends and terminators -/

/-- The longest start of a text in a class, by what bounds it. -/
theorem span_eq_iff {p : Char → Bool} {t body rest : Text} :
    t.takeWhile p = body ∧ t.dropWhile p = rest ↔
      t = body ++ rest ∧ (∀ c ∈ body, p c = true) ∧ ∀ c, rest.head? = some c → p c = false := by
  constructor
  · rintro ⟨rfl, rfl⟩
    refine ⟨List.takeWhile_append_dropWhile.symm, fun c => List.mem_takeWhile_imp, ?_⟩
    intro c hc
    have hstop := List.head?_dropWhile_not p t
    rwa [hc] at hstop
  · rintro ⟨rfl, hbody, hrest⟩
    rw [List.takeWhile_append_of_pos hbody, List.dropWhile_append_of_pos hbody]
    cases rest with
    | nil => simp
    | cons c rest => simp [hrest c rfl]

theorem dropWhile_append_eq {p : Char → Bool} {body rest : Text} (hbody : ∀ c ∈ body, p c = true)
    (hrest : ∀ c, rest.head? = some c → p c = false) : (body ++ rest).dropWhile p = rest :=
  (span_eq_iff.mpr ⟨rfl, hbody, hrest⟩).2

theorem head?_dropWhile_eq_some_iff {p : Char → Bool} {c : Char} (hc : p c = false) :
    (t.dropWhile p).head? = some c ↔
      ∃ front back, t = front ++ c :: back ∧ ∀ x ∈ front, p x = true := by
  constructor
  · intro h
    obtain ⟨back, hback⟩ := List.head?_eq_some_iff.mp h
    obtain ⟨ht, hfront, -⟩ := span_eq_iff.mp ⟨rfl, hback⟩
    exact ⟨_, back, ht, hfront⟩
  · rintro ⟨front, back, rfl, hfront⟩
    have hstop : ∀ x, (c :: back).head? = some x → p x = false := by simpa using hc
    rw [dropWhile_append_eq hfront hstop]
    rfl

theorem drop_length_takeWhile (p : Char → Bool) (t : Text) :
    t.drop (t.takeWhile p).length = t.dropWhile p := by
  calc t.drop (t.takeWhile p).length
      = (t.takeWhile p ++ t.dropWhile p).drop (t.takeWhile p).length := by
        rw [List.takeWhile_append_dropWhile]
    _ = t.dropWhile p := List.drop_left

theorem eq_append_of_after? {lead rest : Text} (h : after? lead t = some rest) :
    t = lead ++ rest := by
  induction lead generalizing t with
  | nil => exact Option.some.inj h
  | cons a lead ih =>
      cases t with
      | nil => simp [after?] at h
      | cons c t =>
          rw [after?] at h
          split_ifs at h with hc
          rw [hc, ih h]
          rfl

theorem eq_append_of_before? {tail rest : Text} (h : before? tail t = some rest) :
    t = rest ++ tail := by
  obtain ⟨front, hfront, rfl⟩ := Option.map_eq_some_iff.mp h
  rw [← List.reverse_reverse t, eq_append_of_after? hfront]
  simp

theorem after?_eq_some_iff {lead rest : Text} : after? lead t = some rest ↔ t = lead ++ rest := by
  refine ⟨eq_append_of_after?, ?_⟩
  rintro rfl
  induction lead with
  | nil => rfl
  | cons a lead ih => rw [List.cons_append, after?, if_pos rfl, ih]

theorem before?_eq_some_iff {tail rest : Text} :
    before? tail t = some rest ↔ t = rest ++ tail := by
  refine ⟨eq_append_of_before?, ?_⟩
  rintro rfl
  rw [before?, List.reverse_append, after?_eq_some_iff.mpr rfl, Option.map_some,
    List.reverse_reverse]

theorem exists_terminator (piece : Text) :
    ∃ terminator ∈ [[], ['\n'], ['\r', '\n']], piece = dropTerminator piece ++ terminator := by
  cases hnewline : before? ['\n'] piece with
  | none => exact ⟨[], by simp, by simp [dropTerminator, hnewline]⟩
  | some line =>
      have hpiece := eq_append_of_before? hnewline
      cases hreturn : before? ['\r'] line with
      | none =>
          have hline : dropTerminator piece = line := by
            rw [dropTerminator, hnewline]
            simp [hreturn]
          exact ⟨['\n'], by simp, hline ▸ hpiece⟩
      | some front =>
          have hfront : dropTerminator piece = front := by
            rw [dropTerminator, hnewline]
            simp [hreturn]
          refine ⟨['\r', '\n'], by simp, ?_⟩
          rw [hfront, hpiece, eq_append_of_before? hreturn, List.append_assoc]
          rfl

/-- What stands before a place in a line belongs to the line, unless its terminator is cut there. -/
theorem prefix_dropTerminator {s t : Text} (hs : '\n' ∉ s)
    (hcut : ¬ (['\r'] <:+ s ∧ ['\n'] <+: t)) : s <+: dropTerminator (s ++ t) := by
  obtain ⟨terminator, hterminator, h⟩ := exists_terminator (s ++ t)
  generalize dropTerminator (s ++ t) = line at h ⊢
  rcases List.append_eq_append_iff.mp h with ⟨between, rfl, -⟩ | ⟨lead, rfl, hlead⟩
  · exact List.prefix_append s between
  · -- Otherwise the terminator starts in front of the place.
    cases lead with
    | nil => simp
    | cons c lead =>
        exfalso
        simp only [List.mem_cons, List.not_mem_nil, or_false] at hterminator
        rcases hterminator with rfl | rfl | rfl
        · cases hlead
        · obtain ⟨rfl, -⟩ := List.cons.inj hlead
          simp at hs
        · obtain ⟨rfl, hrest⟩ := List.cons.inj hlead
          rcases List.singleton_eq_append_iff.mp hrest with ⟨rfl, rfl⟩ | ⟨rfl, -⟩
          · exact hcut ⟨List.suffix_append line _, List.prefix_rfl⟩
          · simp at hs

theorem exists_pieces_eq {front back : Text} (h : '\n' ∉ front) (hne : front ++ back ≠ []) :
    ∃ piece rest, pieces (front ++ back) = (front ++ piece) :: rest ∧ piece <+: back := by
  by_cases hback : '\n' ∈ back
  · obtain ⟨line, rest, rfl, hline⟩ := List.eq_append_cons_of_mem hback
    refine ⟨line ++ ['\n'], pieces rest, ?_, ⟨rest, by simp⟩⟩
    rw [← List.append_assoc, pieces_append_newline (by simp [h, hline]), List.append_assoc]
  · refine ⟨back, [], ?_, List.prefix_rfl⟩
    rw [pieces_of_not_mem (by simp [h, hback]), if_neg hne]

theorem lines_cons {front : Text} (h : '\n' ∉ front) (t : Text) :
    lines (front ++ '\n' :: t) = dropTerminator (front ++ ['\n']) :: lines t := by
  rw [lines, pieces_append_newline h]
  rfl

end Text

/-! ## Places -/

theorem Place.after_succ (line column : Nat) (t : Text) :
    Place.after ⟨line + 1, column⟩ t =
      ⟨(Place.after ⟨line, column⟩ t).line + 1, (Place.after ⟨line, column⟩ t).column⟩ := by
  induction t generalizing line column with
  | nil => rfl
  | cons c t ih =>
      change Place.after (if c = '\n' then _ else _) t = _
      split_ifs with hc
      · rw [ih]
        simp [Place.after, hc]
      · rw [ih]
        simp [Place.after, hc]

/-- The place is one of the text, and it does not cut the terminator of a line. -/
def Place.Marks (place : Place) (t : Text) : Prop :=
  ∃ before after, t = before ++ after ∧ ¬ (['\r'] <:+ before ∧ ['\n'] <+: after) ∧
    place = Place.after ⟨1, 0⟩ before

/-- A place that cuts no terminator lies within its line or right behind it, unless it is the start
of a line that the text does not have. -/
theorem Place.Marks.exists_line {place : Place} {t : Text} (h : place.Marks t) :
    place.column = 0 ∨ ∃ line, 0 < place.line ∧ (Text.lines t)[place.line - 1]? = some line ∧
      place.column ≤ Text.byteLength line := by
  obtain ⟨before, after, rfl, hcut, rfl⟩ := h
  induction hlength : before.length using Nat.strong_induction_on generalizing before with
  | _ n ih =>
      by_cases hbefore : '\n' ∈ before
      · -- The line lies behind the first newline.
        obtain ⟨front, back, rfl, hfront⟩ := List.eq_append_cons_of_mem hbefore
        have hplace : Place.after ⟨1, 0⟩ (front ++ '\n' :: back) =
            ⟨(Place.after ⟨1, 0⟩ back).line + 1, (Place.after ⟨1, 0⟩ back).column⟩ := by
          rw [Place.after_append, Place.after_of_not_mem hfront, ← Place.after_succ]
          rfl
        have hback : back <:+ front ++ '\n' :: back := ⟨front ++ ['\n'], by simp⟩
        have hcut' : ¬ (['\r'] <:+ back ∧ ['\n'] <+: after) :=
          fun h => hcut ⟨h.1.trans hback, h.2⟩
        rw [hplace, List.append_assoc, List.cons_append, Text.lines_cons hfront]
        refine (ih back.length (by simp at hlength; omega) back hcut' rfl).imp_right ?_
        rintro ⟨line, hpos, hline, hcolumn⟩
        refine ⟨line, Nat.succ_pos _, ?_, hcolumn⟩
        obtain ⟨k, hk⟩ := Nat.exists_eq_succ_of_ne_zero hpos.ne'
        rw [hk] at hline ⊢
        exact hline
      · -- The line starts the text, and what stands before the place starts the line.
        rw [Place.after_of_not_mem hbefore]
        by_cases hempty : before ++ after = []
        · exact .inl (by simp [(List.append_eq_nil_iff.mp hempty).1])
        · obtain ⟨piece, rest, hpieces, hpiece⟩ := Text.exists_pieces_eq hbefore hempty
          have hcut' : ¬ (['\r'] <:+ before ∧ ['\n'] <+: piece) :=
            fun h => hcut ⟨h.1, h.2.trans hpiece⟩
          refine .inr ⟨Text.dropTerminator (before ++ piece), Nat.one_pos, ?_, ?_⟩
          · rw [Text.lines, hpieces]
            rfl
          · rw [Nat.zero_add]
            exact Text.byteLength_le_of_prefix (Text.prefix_dropTerminator hbefore hcut')

end CodingStandard
