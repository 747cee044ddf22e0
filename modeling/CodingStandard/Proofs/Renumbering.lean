import CodingStandard.Proofs.Directives
import CodingStandard.Proofs.Respacing

namespace CodingStandard

/-!
# Renumbering the lines of a source

When a line is added to a source, the lines below it get other numbers. A scan reads the lines below
as before, and a statement that it finds there differs in the numbers of its lines only. The rules
for blank lines compare statements by what they say and not by where they stand, so the findings go
with their statements.
-/

/-- A statement with other numbers for its first and its last line. -/
def LogicalLine.renumber (first last : Nat → Nat) (l : LogicalLine) : LogicalLine :=
  { l with start := first l.start, stop := last l.stop }

/-- A finding with another number for its line. -/
def Spacing.Finding.renumber (first : Nat → Nat) (f : Spacing.Finding) : Spacing.Finding :=
  { f with line := first f.line }

/-- The number of a line after another one has been put below the line `k`. -/
def shiftBelow (k n : Nat) : Nat := if n ≤ k then n else n + 1

theorem shiftBelow_of_le {k n : Nat} (h : n ≤ k) : shiftBelow k n = n := if_pos h

theorem shiftBelow_of_lt {k n : Nat} (h : k < n) : shiftBelow k n = n + 1 := if_neg (by omega)

theorem LogicalLine.renumber_eq_self {first last : Nat → Nat} {l : LogicalLine}
    (hfirst : first l.start = l.start) (hlast : last l.stop = l.stop) :
    l.renumber first last = l := by
  rw [renumber, hfirst, hlast]

namespace Spacing

variable {maxBlankLines : Nat} {first last : Nat → Nat}

theorem between?_renumber (previous current : LogicalLine) :
    between? maxBlankLines (previous.renumber first last) (current.renumber first last) =
      (between? maxBlankLines previous current).map (·.renumber first) := by
  simp only [between?, LogicalLine.renumber, Finding.counting, apply_ite (Option.map _),
    Option.map_some, Option.map_none, Finding.renumber]
  rfl

theorem blankLineFindings_renumber (logical : List LogicalLine) :
    blankLineFindings maxBlankLines (logical.map (·.renumber first last)) =
      (blankLineFindings maxBlankLines logical).map (·.renumber first) := by
  induction logical with
  | nil => rfl
  | cons previous rest ih =>
      cases rest with
      | nil => rfl
      | cons current rest =>
          rw [List.map_cons, List.map_cons, blankLineFindings, ← List.map_cons, ih,
            between?_renumber, Option.toList_map, ← List.map_append, blankLineFindings]

end Spacing

/-! ## A scan of renumbered lines -/

namespace Carry

variable {carry : Carry} {number number' : Nat} {first last : Nat → Nat}

def renumber (first last : Nat → Nat) (carry : Carry) : Carry :=
  { carry with pending := carry.pending.map (·.renumber first last) }

theorem unnumbered_renumber (raw : Text) :
    ((carry.renumber first last).physicalLine number' raw).unnumbered =
      (carry.physicalLine number raw).unnumbered := by
  simp [physicalLine, PhysicalLine.unnumbered, renumber]

theorem extended_renumber (hfirst : first number = number') (hlast : last number = number')
    (raw : Text) :
    (carry.renumber first last).extended number' raw =
      (carry.extended number raw).renumber first last := by
  obtain ⟨string, depth, _ | pending, run, longest⟩ := carry
  · simp [extended, extend, renumber, LogicalLine.renumber, lexerAfter, codeOf, hfirst, hlast]
  · simp [extended, extend, renumber, LogicalLine.renumber, lexerAfter, codeOf, hlast]

/-- A line read under another number leaves the same behind, and completes the same statement. -/
theorem next_renumber (hfirst : first number = number') (hlast : last number = number')
    (raw : Text) :
    (carry.renumber first last).next number' raw =
      ((carry.next number raw).1.renumber first last,
        (carry.next number raw).2.map (·.renumber first last)) := by
  have hline : ((carry.renumber first last).physicalLine number' raw).unnumbered =
      (carry.physicalLine number raw).unnumbered := unnumbered_renumber raw
  have hblank : ((carry.renumber first last).physicalLine number' raw).isBlank =
      (carry.physicalLine number raw).isBlank := congrArg (·.isBlank) hline
  have hcomment : ((carry.renumber first last).physicalLine number' raw).isCommentOnly =
      (carry.physicalLine number raw).isCommentOnly := congrArg (·.isCommentOnly) hline
  -- The number of a line decides nothing, so both lines are read in the same way.
  by_cases hgap : (carry.physicalLine number raw).isBlank
  · rw [next_of_isBlank hgap, next_of_isBlank (hblank.trans hgap)]
    rfl
  by_cases hnote : (carry.physicalLine number raw).isCommentOnly
  · rw [next_of_isCommentOnly hnote, next_of_isCommentOnly (hcomment.trans hnote)]
    rfl
  · have hcode := not_or_intro hgap hnote
    rw [next_eq_of_code hcode, next_eq_of_code (by rwa [hblank, hcomment]),
      extended_renumber hfirst hlast]
    have hpending : (carry.renumber first last).pending.isSome = carry.pending.isSome :=
      Option.isSome_map
    have hdone : (carry.renumber first last).completes raw = carry.completes raw := rfl
    rw [hpending, hdone]
    by_cases hcompletes : carry.completes raw
    · simp only [if_pos hcompletes]
      rfl
    · simp only [if_neg hcompletes]
      rfl

end Carry

variable {first last : Nat → Nat}

theorem logicalLines_renumber (carry : Carry) {number : Nat} (raws : List Text)
    (hfirst : ∀ n, number ≤ n → first n = n + 1) (hlast : ∀ n, number ≤ n → last n = n + 1) :
    logicalLines (carry.renumber first last) (number + 1) raws =
      (logicalLines carry number raws).map (·.renumber first last) := by
  induction raws generalizing carry number with
  | nil => exact Option.toList_map
  | cons raw raws ih =>
      have hnext := carry.next_renumber (hfirst number le_rfl) (hlast number le_rfl) raw
      rw [logicalLines_cons, logicalLines_cons, hnext, Option.toList_map, List.map_append,
        ih _ (fun n hn => hfirst n (Nat.le_of_succ_le hn))
          (fun n hn => hlast n (Nat.le_of_succ_le hn))]

/-! ## Above and below a line -/

/-- The statements that some lines complete, without one that is still open behind them. -/
def completed (carry : Carry) (number : Nat) : List Text → List LogicalLine
  | [] => []
  | raw :: raws =>
    (carry.next number raw).2.toList ++ completed (carry.next number raw).1 (number + 1) raws

theorem logicalLines_append (carry : Carry) (number : Nat) (above below : List Text) :
    logicalLines carry number (above ++ below) =
      completed carry number above ++
        logicalLines (carry.past number above) (number + above.length) below := by
  induction above generalizing carry number with
  | nil => rfl
  | cons raw above ih =>
      rw [List.cons_append, logicalLines_cons, ih, completed, Carry.past, List.length_cons,
        List.append_assoc, Nat.add_right_comm, Nat.add_assoc]

theorem Carry.past_append (carry : Carry) (number : Nat) (above below : List Text) :
    carry.past number (above ++ below) =
      (carry.past number above).past (number + above.length) below := by
  induction above generalizing carry number with
  | nil => rfl
  | cons raw above ih =>
      rw [List.cons_append, past, ih, past, List.length_cons, Nat.add_right_comm, Nat.add_assoc]

theorem Carry.behind_concat (above : List Text) (raw : Text) :
    behind (above ++ [raw]) = ((behind above).next (above.length + 1) raw).1 := by
  rw [behind, past_append, Nat.add_comm 1]
  rfl

theorem Carry.Follows.past {carry : Carry} {physical : List PhysicalLine}
    {logical : List LogicalLine} (h : carry.Follows physical logical)
    (harranged : Arranged physical (logical ++ carry.pending.toList)) (raws : List Text) :
    let number := physical.length + 1
    let after := carry.past number raws
    Arranged (physical ++ physicalLines carry number raws)
        (logical ++ completed carry number raws ++ after.pending.toList) ∧
      after.Follows (physical ++ physicalLines carry number raws)
        (logical ++ completed carry number raws) := by
  induction raws generalizing carry physical logical with
  | nil => simpa [Carry.past, physicalLines, completed] using ⟨harranged, h⟩
  | cons raw raws ih =>
      obtain ⟨hnext, hfollows⟩ := h.next harranged raw
      have hrest := ih hfollows hnext
      rw [List.length_append, List.length_singleton] at hrest
      simpa [Carry.past, physicalLines, completed] using hrest

section Edit

variable (above : List Text)

theorem length_physicalLines (carry : Carry) (number : Nat) (raws : List Text) :
    (physicalLines carry number raws).length = raws.length := by
  rw [← List.length_map (·.text), map_text_physicalLines]

theorem Carry.follows_behind :
    (Carry.behind above).Follows (physicalLines .initial 1 above) (completed .initial 1 above) := by
  simpa [behind] using (follows_initial.past .empty above).2

theorem arranged_behind :
    Arranged (physicalLines .initial 1 above)
      (completed .initial 1 above ++ (Carry.behind above).pending.toList) := by
  simpa [Carry.behind] using (Carry.follows_initial.past .empty above).1

variable {above}

theorem number_le_of_mem_completed {l : LogicalLine}
    (h : l ∈ completed .initial 1 above ++ (Carry.behind above).pending.toList) :
    l.start ≤ above.length ∧ l.stop ≤ above.length := by
  obtain ⟨-, hle, hstop⟩ := (arranged_behind above).bounds h
  rw [length_physicalLines] at hstop
  exact ⟨hle.trans hstop, hstop⟩

theorem Carry.start_le_of_pending_behind {l : LogicalLine} (h : (behind above).pending = some l) :
    l.start ≤ above.length :=
  (number_le_of_mem_completed (List.mem_append_right _ (Option.mem_toList.mpr h))).1

/-- The statements above a line keep their numbers, also one that is still open there. -/
theorem renumber_above (hfirst : ∀ n ≤ above.length, first n = n)
    (hlast : ∀ n ≤ above.length, last n = n) :
    (completed .initial 1 above).map (·.renumber first last) = completed .initial 1 above ∧
      (Carry.behind above).renumber first last = Carry.behind above := by
  have hkeep : ∀ l ∈ completed .initial 1 above ++ (Carry.behind above).pending.toList,
      l.renumber first last = l := by
    intro l hl
    obtain ⟨hstart, hstop⟩ := number_le_of_mem_completed hl
    exact l.renumber_eq_self (hfirst _ hstart) (hlast _ hstop)
  constructor
  · conv_rhs => rw [← List.map_id (completed .initial 1 above)]
    exact List.map_congr_left fun l hl => hkeep l (List.mem_append_left _ hl)
  · have hpending : (Carry.behind above).pending.map (·.renumber first last) =
        (Carry.behind above).pending := by
      conv_rhs => rw [← Option.map_id' (x := (Carry.behind above).pending)]
      exact Option.map_congr fun l hl =>
        hkeep l (List.mem_append_right _ (Option.mem_toList.mpr hl))
    rw [Carry.renumber, hpending]

theorem logical_scan_of_lines {source : Text} {below : List Text}
    (h : Text.lines source = above ++ below) :
    (scan source).logical = completed .initial 1 above ++
      logicalLines (Carry.behind above) (above.length + 1) below := by
  rw [scan, h, logicalLines_append, Nat.add_comm 1]
  rfl

/-- Sources with the same lines above some others have statements that differ as those below. -/
theorem logical_scan_renumber {source edited : Text} {below below' : List Text}
    (hsource : Text.lines source = above ++ below) (hedited : Text.lines edited = above ++ below')
    (hfirst : ∀ n ≤ above.length, first n = n) (hlast : ∀ n ≤ above.length, last n = n)
    (hbelow : logicalLines (Carry.behind above) (above.length + 1) below' =
      (logicalLines (Carry.behind above) (above.length + 1) below).map (·.renumber first last)) :
    (scan edited).logical = (scan source).logical.map (·.renumber first last) := by
  obtain ⟨hcompleted, -⟩ := renumber_above hfirst hlast
  rw [logical_scan_of_lines hedited, logical_scan_of_lines hsource, List.map_append, hcompleted,
    hbelow]

end Edit

end CodingStandard
