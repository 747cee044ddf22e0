import CodingStandard.Layout.Scan
import Mathlib.Data.List.Infix
import Mathlib.Data.List.Pairwise
import Mathlib.Order.Bounds.Basic
import Mathlib.Order.MinMax

namespace CodingStandard

/-!
# Where the lines of a source belong

A scan hands out the lines of a source: a line is blank, holds only a comment, or lies in one
logical line. The proof follows the scan line by line. A line leaves the logical lines as they
are, opens a new one, or makes the last one longer. An open string or bracket always has a
logical line that is not complete, also in a source that is not well formed, so a line that
continues nothing starts in code.
-/

/-! ## Runs of blank lines -/

/-- The longest run of blank lines among some lines. -/
def LongestRun (lines : List PhysicalLine) : Nat → Prop :=
  IsGreatest {k | ∃ run, run <:+: lines ∧ (∀ line ∈ run, line.isBlank) ∧ run.length = k}

/-- The run of blank lines that some lines end in. -/
def LastRun (lines : List PhysicalLine) : Nat → Prop :=
  IsGreatest {k | ∃ run, run <:+ lines ∧ (∀ line ∈ run, line.isBlank) ∧ run.length = k}

section Runs

variable {lines : List PhysicalLine} {line : PhysicalLine} {k last : Nat}

theorem longestRun_nil : LongestRun [] 0 := by
  refine ⟨⟨[], List.infix_rfl, by simp, rfl⟩, ?_⟩
  rintro k ⟨run, hrun, -, rfl⟩
  rw [List.infix_nil.mp hrun, List.length_nil]

theorem lastRun_nil : LastRun [] 0 := by
  refine ⟨⟨[], List.suffix_rfl, by simp, rfl⟩, ?_⟩
  rintro k ⟨run, hrun, -, rfl⟩
  rw [List.suffix_nil.mp hrun, List.length_nil]

theorem LastRun.concat_blank (h : LastRun lines last) (hblank : line.isBlank) :
    LastRun (lines ++ [line]) (last + 1) := by
  obtain ⟨⟨run, hrun, hall, rfl⟩, hmax⟩ := h
  constructor
  · refine ⟨run ++ [line], List.suffix_concat_iff.mpr (.inr ⟨run, rfl, hrun⟩), ?_, by simp⟩
    simpa [or_imp, forall_and, hblank] using hall
  · rintro k ⟨other, hother, hothers, rfl⟩
    rcases List.suffix_concat_iff.mp hother with rfl | ⟨front, rfl, hfront⟩
    · simp
    · have hle := hmax ⟨front, hfront, fun x hx => hothers x (List.mem_append_left _ hx), rfl⟩
      simpa using hle

theorem lastRun_concat_of_not_blank (lines : List PhysicalLine) (hline : ¬ line.isBlank) :
    LastRun (lines ++ [line]) 0 := by
  refine ⟨⟨[], List.nil_suffix, by simp, rfl⟩, ?_⟩
  rintro k ⟨run, hrun, hall, rfl⟩
  rcases List.suffix_concat_iff.mp hrun with rfl | ⟨front, rfl, -⟩
  · simp
  · exact absurd (hall line (by simp)) hline

theorem LongestRun.concat_blank (h : LongestRun lines k) (hlast : LastRun lines last)
    (hblank : line.isBlank) : LongestRun (lines ++ [line]) (max k (last + 1)) := by
  have hnext := hlast.concat_blank hblank
  constructor
  · rcases le_total (last + 1) k with hle | hle
    · obtain ⟨run, hrun, hall, rfl⟩ := h.1
      rw [max_eq_left hle]
      exact ⟨run, List.infix_concat_iff.mpr (.inr hrun), hall, rfl⟩
    · obtain ⟨run, hrun, hall, hlength⟩ := hnext.1
      rw [max_eq_right hle]
      exact ⟨run, hrun.isInfix, hall, hlength⟩
  · rintro n ⟨run, hrun, hall, rfl⟩
    rcases List.infix_concat_iff.mp hrun with hrun | hrun
    · exact le_max_iff.mpr (.inr (hnext.2 ⟨run, hrun, hall, rfl⟩))
    · exact le_max_iff.mpr (.inl (h.2 ⟨run, hrun, hall, rfl⟩))

theorem LongestRun.concat_of_not_blank (h : LongestRun lines k) (hline : ¬ line.isBlank) :
    LongestRun (lines ++ [line]) k := by
  obtain ⟨⟨run, hrun, hall, rfl⟩, hmax⟩ := h
  refine ⟨⟨run, List.infix_concat_iff.mpr (.inr hrun), hall, rfl⟩, ?_⟩
  rintro n ⟨other, hother, hothers, rfl⟩
  rcases List.infix_concat_iff.mp hother with hother | hother
  · have hzero := (lastRun_concat_of_not_blank lines hline).2 ⟨other, hother, hothers, rfl⟩
    exact hzero.trans (Nat.zero_le _)
  · exact hmax ⟨other, hother, hothers, rfl⟩

end Runs

/-! ## Lines that are added one by one -/

/-- The logical line takes in the line with a number. -/
def LogicalLine.Covers (logical : LogicalLine) (number : Nat) : Prop :=
  logical.start ≤ number ∧ number ≤ logical.stop

/-- The last line of the last of some logical lines, zero if there are none. -/
def lastStop (logical : List LogicalLine) : Nat := (logical.getLast?.map (·.stop)).getD 0

/-- The lines behind a line. -/
def linesAfter (physical : List PhysicalLine) (low : Nat) : List PhysicalLine :=
  physical.filter fun line => low < line.number

/-- The lines between two lines. -/
def linesBetween (physical : List PhysicalLine) (low high : Nat) : List PhysicalLine :=
  physical.filter fun line => low < line.number ∧ line.number < high

@[simp] theorem lastStop_concat (logical : List LogicalLine) (last : LogicalLine) :
    lastStop (logical ++ [last]) = last.stop := by
  simp [lastStop]

theorem linesAfter_concat (physical : List PhysicalLine) {line : PhysicalLine} {low : Nat}
    (h : low < line.number) :
    linesAfter (physical ++ [line]) low = linesAfter physical low ++ [line] := by
  simp [linesAfter, h]

theorem linesAfter_eq_nil {physical : List PhysicalLine} {low : Nat}
    (h : ∀ line ∈ physical, line.number ≤ low) : linesAfter physical low = [] :=
  List.filter_eq_nil_iff.mpr fun line hline => by simpa using h line hline

theorem linesBetween_concat {physical : List PhysicalLine} {line : PhysicalLine} {low high : Nat}
    (h : high ≤ line.number) :
    linesBetween (physical ++ [line]) low high = linesBetween physical low high := by
  have hline : ¬ (low < line.number ∧ line.number < high) := by omega
  simp [linesBetween, hline]

theorem linesBetween_eq_linesAfter {physical : List PhysicalLine} {low high : Nat}
    (h : ∀ line ∈ physical, line.number < high) :
    linesBetween physical low high = linesAfter physical low :=
  List.filter_congr fun line hline => by simp [h line hline]

theorem PhysicalLine.fresh_of_gap {line : PhysicalLine} (h : line.isBlank ∨ line.isCommentOnly) :
    line.continuation = false ∧ line.inString = false := by
  rcases h with h | h
  · simp_all [isBlank]
  · simp_all [isCommentOnly]

/-- The lines of a source up to some line, and the logical lines that they make up: each line is
a gap, opens a logical line or continues the last one. -/
inductive Arranged : List PhysicalLine → List LogicalLine → Prop where
  | empty : Arranged [] []
  | gap {physical logical line} (h : Arranged physical logical)
      (hnumber : line.number = physical.length + 1) (hgap : line.isBlank ∨ line.isCommentOnly) :
      Arranged (physical ++ [line]) logical
  | opens {physical logical line opened} (h : Arranged physical logical)
      (hnumber : line.number = physical.length + 1)
      (hcode : ¬ (line.isBlank ∨ line.isCommentOnly)) (hfirst : line.continuation = false)
      (hclosed : line.inString = false) (hstart : opened.start = line.number)
      (hstop : opened.stop = line.number)
      (hblank : LongestRun (linesAfter physical (lastStop logical)) opened.blankBefore) :
      Arranged (physical ++ [line]) (logical ++ [opened])
  | continues {physical logical line last longer} (h : Arranged physical (logical ++ [last]))
      (hlast : last.stop = physical.length) (hnumber : line.number = physical.length + 1)
      (hfurther : line.continuation = true) (hstart : longer.start = last.start)
      (hstop : longer.stop = line.number) (hblank : longer.blankBefore = last.blankBefore) :
      Arranged (physical ++ [line]) (logical ++ [longer])

namespace Arranged

variable {physical : List PhysicalLine} {logical : List LogicalLine} {line : PhysicalLine}
  {l : LogicalLine}

theorem numbers (h : Arranged physical logical) :
    physical.map (·.number) = List.range' 1 physical.length := by
  have hstep : ∀ {physical : List PhysicalLine} {line : PhysicalLine},
      line.number = physical.length + 1 →
      physical.map (·.number) = List.range' 1 physical.length →
      (physical ++ [line]).map (·.number) = List.range' 1 (physical ++ [line]).length := by
    intro physical line hnumber ih
    rw [List.map_append, ih, List.length_append, List.length_singleton, List.range'_1_concat,
      List.map_singleton, hnumber, Nat.add_comm]
  induction h with
  | empty => rfl
  | gap _ hnumber _ ih => exact hstep hnumber ih
  | opens _ hnumber _ _ _ _ _ _ ih => exact hstep hnumber ih
  | continues _ _ hnumber _ _ _ _ ih => exact hstep hnumber ih

theorem number_le (h : Arranged physical logical) (hline : line ∈ physical) :
    line.number ≤ physical.length := by
  have hmem : line.number ∈ List.range' 1 physical.length :=
    h.numbers ▸ List.mem_map_of_mem hline
  have hbound := List.mem_range'_1.mp hmem
  omega

theorem bounds (h : Arranged physical logical) (hl : l ∈ logical) :
    0 < l.start ∧ l.start ≤ l.stop ∧ l.stop ≤ physical.length := by
  induction h generalizing l with
  | empty => simp at hl
  | gap _ _ _ ih =>
      have hold := ih hl
      rw [List.length_append, List.length_singleton]
      omega
  | opens _ hnumber _ _ _ hstart hstop _ ih =>
      rw [List.length_append, List.length_singleton]
      rcases List.mem_append.mp hl with hl | hl
      · have hold := ih hl
        omega
      · obtain rfl := List.mem_singleton.mp hl
        omega
  | @continues _ _ _ last _ _ _ hnumber _ hstart hstop _ ih =>
      rw [List.length_append, List.length_singleton]
      rcases List.mem_append.mp hl with hl | hl
      · have hold := ih (List.mem_append_left _ hl)
        omega
      · obtain rfl := List.mem_singleton.mp hl
        have hold := ih (l := last) List.mem_concat_self
        omega

theorem lastStop_le (h : Arranged physical logical) : lastStop logical ≤ physical.length := by
  rcases logical.eq_nil_or_concat' with rfl | ⟨front, last, rfl⟩
  · exact Nat.zero_le _
  · rw [lastStop_concat]
    exact (h.bounds List.mem_concat_self).2.2

theorem ordered (h : Arranged physical logical) :
    logical.Pairwise fun a b => a.stop < b.start := by
  induction h with
  | empty => exact List.Pairwise.nil
  | gap _ _ _ ih => exact ih
  | opens h hnumber _ _ _ hstart _ _ ih =>
      refine List.pairwise_append.mpr ⟨ih, List.pairwise_singleton _ _, ?_⟩
      intro a ha b hb
      obtain rfl := List.mem_singleton.mp hb
      have hold := h.bounds ha
      omega
  | continues _ _ _ _ hstart _ _ ih =>
      obtain ⟨hfront, -, hlast⟩ := List.pairwise_append.mp ih
      refine List.pairwise_append.mpr ⟨hfront, List.pairwise_singleton _ _, ?_⟩
      intro a ha b hb
      obtain rfl := List.mem_singleton.mp hb
      exact hstart ▸ hlast a ha _ (List.mem_singleton_self _)

/-- A line lies in a logical line exactly if it is no gap. -/
theorem covered_iff (h : Arranged physical logical) (hline : line ∈ physical) :
    (∃ l ∈ logical, l.Covers line.number) ↔ ¬ (line.isBlank ∨ line.isCommentOnly) := by
  induction h with
  | empty => simp at hline
  | gap h hnumber hgap ih =>
      rcases List.mem_append.mp hline with hline | hline
      · exact ih hline
      · obtain rfl := List.mem_singleton.mp hline
        refine iff_of_false ?_ (not_not_intro hgap)
        rintro ⟨l, hl, hcovers⟩
        have hbound := h.bounds hl
        have hstop := hcovers.2
        omega
  | opens h hnumber hcode _ _ hstart hstop _ ih =>
      simp only [List.mem_append, List.mem_singleton, or_and_right, exists_or, exists_eq_left]
      rcases List.mem_append.mp hline with hline | hline
      · have hbound := h.number_le hline
        rw [← ih hline, or_iff_left]
        intro hcovers
        have hfrom := hcovers.1
        omega
      · obtain rfl := List.mem_singleton.mp hline
        exact iff_of_true (.inr ⟨hstart.le, hstop.ge⟩) hcode
  | continues h hlast hnumber hfurther hstart hstop _ ih =>
      simp only [List.mem_append, List.mem_singleton, or_and_right, exists_or,
        exists_eq_left] at ih ⊢
      have hbounds := h.bounds List.mem_concat_self
      rcases List.mem_append.mp hline with hline | hline
      · have hbound := h.number_le hline
        rw [← ih hline]
        refine or_congr_right ⟨fun hcovers => ?_, fun hcovers => ?_⟩
        · exact ⟨hstart ▸ hcovers.1, by omega⟩
        · exact ⟨hstart ▸ hcovers.1, by omega⟩
      · obtain rfl := List.mem_singleton.mp hline
        refine iff_of_true (.inr ⟨by omega, hstop.ge⟩) fun hgap => ?_
        simp [(PhysicalLine.fresh_of_gap hgap).1] at hfurther

theorem eq_of_covers (h : Arranged physical logical) {number : Nat} {l' : LogicalLine}
    (hl : l ∈ logical) (hl' : l' ∈ logical) (hcovers : l.Covers number)
    (hcovers' : l'.Covers number) : l = l' := by
  by_contra hne
  obtain ⟨i, hi, rfl⟩ := List.getElem_of_mem hl
  obtain ⟨j, hj, rfl⟩ := List.getElem_of_mem hl'
  have hordered := List.pairwise_iff_getElem.mp h.ordered
  unfold LogicalLine.Covers at hcovers hcovers'
  rcases lt_trichotomy i j with hij | rfl | hij
  · have hgap := hordered i j hi hj hij
    omega
  · exact hne rfl
  · have hgap := hordered j i hj hi hij
    omega

theorem continuation_iff (h : Arranged physical logical) (hline : line ∈ physical) :
    line.continuation ↔ ∃ l ∈ logical, l.start < line.number ∧ line.number ≤ l.stop := by
  induction h with
  | empty => simp at hline
  | gap h hnumber hgap ih =>
      rcases List.mem_append.mp hline with hline | hline
      · exact ih hline
      · obtain rfl := List.mem_singleton.mp hline
        refine iff_of_false (by simp [(PhysicalLine.fresh_of_gap hgap).1]) ?_
        rintro ⟨l, hl, hcovers⟩
        have hbound := h.bounds hl
        omega
  | opens h hnumber _ hfirst _ hstart hstop _ ih =>
      simp only [List.mem_append, List.mem_singleton, or_and_right, exists_or, exists_eq_left]
      rcases List.mem_append.mp hline with hline | hline
      · have hbound := h.number_le hline
        rw [ih hline, or_iff_left (by omega)]
      · obtain rfl := List.mem_singleton.mp hline
        refine iff_of_false (by simp [hfirst]) ?_
        rintro (⟨l, hl, hcovers⟩ | hcovers)
        · have hbound := h.bounds hl
          omega
        · omega
  | continues h hlast hnumber hfurther hstart hstop _ ih =>
      simp only [List.mem_append, List.mem_singleton, or_and_right, exists_or,
        exists_eq_left] at ih ⊢
      have hbounds := h.bounds List.mem_concat_self
      rcases List.mem_append.mp hline with hline | hline
      · have hbound := h.number_le hline
        rw [ih hline]
        exact or_congr_right ⟨fun _ => by omega, fun _ => by omega⟩
      · obtain rfl := List.mem_singleton.mp hline
        exact iff_of_true hfurther (.inr (by omega))

theorem continuation_of_inString (h : Arranged physical logical) (hline : line ∈ physical)
    (hstring : line.inString) : line.continuation := by
  induction h with
  | empty => simp at hline
  | gap _ _ hgap ih =>
      rcases List.mem_append.mp hline with hline | hline
      · exact ih hline
      · obtain rfl := List.mem_singleton.mp hline
        simp [(PhysicalLine.fresh_of_gap hgap).2] at hstring
  | opens _ _ _ _ hclosed _ _ _ ih =>
      rcases List.mem_append.mp hline with hline | hline
      · exact ih hline
      · obtain rfl := List.mem_singleton.mp hline
        simp [hclosed] at hstring
  | continues _ _ _ hfurther _ _ _ ih =>
      rcases List.mem_append.mp hline with hline | hline
      · exact ih hline
      · obtain rfl := List.mem_singleton.mp hline
        exact hfurther

theorem cases_of_concat_eq {α : Type} {xs front back : List α} {x y : α}
    (h : xs ++ [x] = front ++ y :: back) :
    (xs = front ∧ x = y ∧ back = []) ∨ ∃ rest, back = rest ++ [x] ∧ xs = front ++ y :: rest := by
  rcases back.eq_nil_or_concat' with rfl | ⟨rest, z, rfl⟩
  · obtain ⟨rfl, hx⟩ := List.append_inj' h rfl
    exact .inl ⟨rfl, List.singleton_inj.mp hx, rfl⟩
  · rw [← List.cons_append, ← List.append_assoc] at h
    obtain ⟨rfl, hx⟩ := List.append_inj' h rfl
    exact .inr ⟨rest, by rw [List.singleton_inj.mp hx], rfl⟩

/-- The blank lines before a logical line are those behind the logical line in front of it. -/
theorem longestRun (h : Arranged physical logical) {front back : List LogicalLine}
    (hsplit : logical = front ++ l :: back) :
    LongestRun (linesBetween physical (lastStop front) l.start) l.blankBefore := by
  induction h generalizing front l back with
  | empty => simp at hsplit
  | gap h hnumber _ ih =>
      have hbound := h.bounds (l := l) (by simp [hsplit])
      rw [linesBetween_concat (by omega)]
      exact ih hsplit
  | opens h hnumber _ _ _ hstart _ hblank ih =>
      rcases cases_of_concat_eq hsplit with ⟨rfl, rfl, -⟩ | ⟨rest, -, hrest⟩
      · rw [linesBetween_concat (by omega), linesBetween_eq_linesAfter]
        · exact hblank
        · intro line hline
          have hbound := h.number_le hline
          omega
      · have hbound := h.bounds (l := l) (by simp [hrest])
        rw [linesBetween_concat (by omega)]
        exact ih hrest
  | continues h _ hnumber _ hstart _ hblank ih =>
      rcases cases_of_concat_eq hsplit with ⟨rfl, rfl, -⟩ | ⟨rest, -, rfl⟩
      · have hbound := h.bounds List.mem_concat_self
        rw [linesBetween_concat (by omega), hstart, hblank]
        exact ih rfl
      · have hbound := h.bounds (l := l) (by simp)
        rw [linesBetween_concat (by omega)]
        exact ih (List.append_assoc ..)

end Arranged

/-! ## The lines of a scan -/

namespace Lexer

theorem head_of_split {lx : Lexer} {t comment : Text} (h : (split lx t).2 = some comment) :
    comment.head? = some '#' := by
  induction t generalizing lx with
  | nil => simp [split] at h
  | cons c t ih =>
      rw [split] at h
      split at h
      case isTrue hc =>
        obtain rfl : c :: t = comment := by simpa using h
        simp_all
      case isFalse => exact ih h

theorem run_of_isWhite {t : Text} (h : Text.isWhite t) (depth : Nat) :
    run ⟨.code, depth⟩ t = ⟨.code, depth⟩ := by
  induction t with
  | nil => rfl
  | cons c t ih =>
      obtain ⟨hc, ht⟩ : Text.isBlank c ∧ Text.isWhite t := by simpa [Text.isWhite] using h
      have hmarks : ∀ d ∈ ['"', '\'', '(', '[', '\x7b', ')', ']', '\x7d'], c ≠ d := by
        rintro d hd rfl
        have hnone : ['"', '\'', '(', '[', '\x7b', ')', ']', '\x7d'].all (!Text.isBlank ·) := by
          decide
        simpa [hc] using List.all_eq_true.mp hnone c hd
      have hstep : stepCode depth c = ⟨.code, depth⟩ := by
        simp only [List.forall_mem_cons] at hmarks
        simp [stepCode, hmarks]
      rw [run_cons, step, hstep, ih ht]

end Lexer

namespace Carry

variable {carry : Carry} {number : Nat} {raw : Text}

/-- The code of a line of text. -/
def codeOf (carry : Carry) (raw : Text) : Text :=
  (Lexer.split ⟨Mode.start carry.string, carry.depth⟩ raw).1

/-- Where the reader stands behind the code of a line of text. -/
def lexerAfter (carry : Carry) (raw : Text) : Lexer :=
  Lexer.run ⟨Mode.start carry.string, carry.depth⟩ (carry.codeOf raw)

theorem code_physicalLine (carry : Carry) (number : Nat) (raw : Text) :
    (carry.physicalLine number raw).code = carry.codeOf raw := by
  have hjoin := Lexer.split_join ⟨Mode.start carry.string, carry.depth⟩ raw
  unfold PhysicalLine.code physicalLine codeOf
  revert hjoin
  generalize Lexer.split _ raw = cut
  rcases cut with ⟨code, _ | comment⟩
  · rintro rfl
    simp
  · rintro rfl
    simp

theorem isWhite_of_gap
    (h : (carry.physicalLine number raw).isBlank ∨ (carry.physicalLine number raw).isCommentOnly) :
    Text.isWhite (carry.codeOf raw) := by
  rcases h with h | h
  · have hraw : Text.isWhite raw := by
      simp only [PhysicalLine.isBlank, Bool.and_eq_true] at h
      exact h.2
    have hjoin := Lexer.split_join ⟨Mode.start carry.string, carry.depth⟩ raw
    rw [← hjoin, Text.isWhite, List.all_append, Bool.and_eq_true] at hraw
    exact hraw.1
  · simp only [PhysicalLine.isCommentOnly, Bool.and_eq_true] at h
    exact code_physicalLine carry number raw ▸ h.2

theorem not_isCommentOnly_of_isBlank (h : (carry.physicalLine number raw).isBlank) :
    (carry.physicalLine number raw).isCommentOnly = false := by
  by_contra hcomment
  simp only [PhysicalLine.isBlank, PhysicalLine.isCommentOnly, physicalLine, Bool.and_eq_true,
    Bool.not_eq_false, Option.isSome_map] at h hcomment
  obtain ⟨comment, hcut⟩ := Option.isSome_iff_exists.mp hcomment.1.2
  -- A comment starts with a mark that is no white space, and lies in the line.
  obtain ⟨rest, rfl⟩ := List.head?_eq_some_iff.mp (Lexer.head_of_split hcut)
  have hjoin := Lexer.split_join ⟨Mode.start carry.string, carry.depth⟩ raw
  rw [hcut] at hjoin
  have hwhite := h.2
  rw [← hjoin] at hwhite
  simp [Text.isWhite] at hwhite
  exact absurd hwhite.2.1 (by decide)

theorem next_of_isBlank (h : (carry.physicalLine number raw).isBlank) :
    carry.next number raw =
      ({ carry with
          string := openAfter (carry.lexerAfter raw).mode raw
          depth := (carry.lexerAfter raw).depth
          run := carry.run + 1
          longest := max carry.longest (carry.run + 1) }, none) := by
  unfold next
  rw [if_pos h]
  rfl

theorem next_of_isCommentOnly (h : (carry.physicalLine number raw).isCommentOnly) :
    carry.next number raw =
      ({ carry with
          string := openAfter (carry.lexerAfter raw).mode raw
          depth := (carry.lexerAfter raw).depth
          run := 0 }, none) := by
  have hblank : ¬ (carry.physicalLine number raw).isBlank := fun hblank => by
    simp [not_isCommentOnly_of_isBlank hblank] at h
  unfold next
  rw [if_neg hblank, if_pos h]
  rfl

/-- The logical line that a line of code is part of, up to that line. -/
def extended (carry : Carry) (number : Nat) (raw : Text) : LogicalLine :=
  carry.extend number raw (segment carry.pending.isSome
    (endsInBackslash (openAfter (carry.lexerAfter raw).mode raw) (carry.codeOf raw))
    (carry.codeOf raw))

/-- No string, no bracket and no backslash is left open by a line of code. -/
def completes (carry : Carry) (raw : Text) : Bool :=
  let string := openAfter (carry.lexerAfter raw).mode raw
  string.isNone && (carry.lexerAfter raw).depth == 0 &&
    !endsInBackslash string (carry.codeOf raw)

theorem closed_of_completes (h : carry.completes raw) :
    openAfter (carry.lexerAfter raw).mode raw = none ∧ (carry.lexerAfter raw).depth = 0 := by
  simp only [completes, Bool.and_eq_true, Option.isNone_iff_eq_none, beq_iff_eq] at h
  exact h.1

theorem next_eq_of_code (h : ¬ ((carry.physicalLine number raw).isBlank ∨
      (carry.physicalLine number raw).isCommentOnly)) :
    carry.next number raw =
      ({ string := openAfter (carry.lexerAfter raw).mode raw
         depth := (carry.lexerAfter raw).depth
         pending := if carry.completes raw then none else some (carry.extended number raw)
         run := if carry.pending.isSome then carry.run else 0
         longest := if carry.pending.isSome then carry.longest else 0 },
        if carry.completes raw then some (carry.extended number raw) else none) := by
  rw [not_or] at h
  unfold next
  rw [if_neg h.1, if_neg h.2]
  dsimp only
  by_cases hdone : carry.completes raw
  · rw [if_pos hdone, if_pos hdone]
    exact if_pos hdone
  · rw [if_neg hdone, if_neg hdone]
    exact if_neg hdone

/-- A line of code makes the pending logical line longer, or opens one. That line is complete
unless a string, a bracket or a backslash leaves it open. -/
theorem next_of_code (h : ¬ ((carry.physicalLine number raw).isBlank ∨
      (carry.physicalLine number raw).isCommentOnly)) :
    ∃ part,
      ((carry.next number raw).2 = some (carry.extend number raw part) ∧
          (carry.next number raw).1.pending = none ∧
          (carry.next number raw).1.string = none ∧ (carry.next number raw).1.depth = 0 ∨
        (carry.next number raw).2 = none ∧
          (carry.next number raw).1.pending = some (carry.extend number raw part)) ∧
      (carry.next number raw).1.run = (if carry.pending.isSome then carry.run else 0) ∧
      (carry.next number raw).1.longest = (if carry.pending.isSome then carry.longest else 0) := by
  refine ⟨segment carry.pending.isSome
    (endsInBackslash (openAfter (carry.lexerAfter raw).mode raw) (carry.codeOf raw))
    (carry.codeOf raw), ?_⟩
  rw [next_eq_of_code h]
  by_cases hdone : carry.completes raw
  · obtain ⟨hstring, hdepth⟩ := closed_of_completes hdone
    exact ⟨.inl ⟨if_pos hdone, if_pos hdone, hstring, hdepth⟩, rfl, rfl⟩
  · exact ⟨.inr ⟨if_neg hdone, if_neg hdone⟩, rfl, rfl⟩

/-- What a scan knows after some lines: it stands in code unless a logical line is pending, a
pending line reaches up to here, and the runs of blank lines are those since the last logical
line. -/
structure Follows (carry : Carry) (physical : List PhysicalLine) (logical : List LogicalLine) :
    Prop where
  closed : carry.pending = none → carry.string = none ∧ carry.depth = 0
  reaches : ∀ l, carry.pending = some l → l.stop = physical.length
  last : LastRun (linesAfter physical (lastStop (logical ++ carry.pending.toList))) carry.run
  longest : LongestRun (linesAfter physical (lastStop (logical ++ carry.pending.toList)))
    carry.longest

theorem follows_initial : initial.Follows [] [] :=
  ⟨fun _ => ⟨rfl, rfl⟩, fun _ h => by simp [initial] at h, lastRun_nil, longestRun_nil⟩

variable {physical : List PhysicalLine} {logical : List LogicalLine}

/-- A gap leaves the reader where it is. -/
theorem state_of_gap (hclosed : carry.pending = none → carry.string = none ∧ carry.depth = 0)
    (hgap : (carry.physicalLine number raw).isBlank ∨
      (carry.physicalLine number raw).isCommentOnly) :
    carry.pending = none ∧ openAfter (carry.lexerAfter raw).mode raw = none ∧
      (carry.lexerAfter raw).depth = 0 := by
  have hpending : carry.pending = none := by
    simpa [physicalLine] using (PhysicalLine.fresh_of_gap hgap).1
  obtain ⟨hstring, hdepth⟩ := hclosed hpending
  have hlexer : carry.lexerAfter raw = ⟨.code, 0⟩ := by
    rw [lexerAfter, hstring, hdepth]
    exact Lexer.run_of_isWhite (isWhite_of_gap hgap) 0
  exact ⟨hpending, by simp [hlexer, openAfter, Mode.openString?], by rw [hlexer]⟩

@[simp] theorem stop_extend (carry : Carry) (number : Nat) (raw part : Text) :
    (carry.extend number raw part).stop = number := by
  unfold extend
  split <;> rfl

theorem Follows.arranged_of_code (h : carry.Follows physical logical)
    (harranged : Arranged physical (logical ++ carry.pending.toList))
    (hcode : ¬ ((carry.physicalLine (physical.length + 1) raw).isBlank ∨
      (carry.physicalLine (physical.length + 1) raw).isCommentOnly)) (part : Text) :
    Arranged (physical ++ [carry.physicalLine (physical.length + 1) raw])
      (logical ++ [carry.extend (physical.length + 1) raw part]) := by
  have hlongest := h.longest
  cases hpending : carry.pending with
  | none =>
      rw [hpending, Option.toList_none, List.append_nil] at harranged hlongest
      obtain ⟨hstring, -⟩ := h.closed hpending
      refine harranged.opens rfl hcode ?_ ?_ ?_ (stop_extend ..) ?_
      · simp [physicalLine, hpending]
      · simp [physicalLine, hstring]
      · simp [extend, hpending, physicalLine]
      · simpa [extend, hpending] using hlongest
  | some last =>
      rw [hpending, Option.toList_some] at harranged
      refine harranged.continues (h.reaches last hpending) rfl ?_ ?_ (stop_extend ..) ?_
      · simp [physicalLine, hpending]
      · simp [extend, hpending]
      · simp [extend, hpending]

/-- No blank line is counted within a logical line. -/
theorem Follows.runs_of_code (h : carry.Follows physical logical)
    (harranged : Arranged physical (logical ++ carry.pending.toList)) {run longest : Nat}
    (hruns : run = (if carry.pending.isSome then carry.run else 0) ∧
      longest = (if carry.pending.isSome then carry.longest else 0)) :
    LastRun [] run ∧ LongestRun [] longest := by
  obtain ⟨rfl, rfl⟩ := hruns
  cases hpending : carry.pending with
  | none => exact ⟨lastRun_nil, longestRun_nil⟩
  | some last =>
      have hnone : linesAfter physical (lastStop (logical ++ carry.pending.toList)) = [] := by
        refine linesAfter_eq_nil fun x hx => ?_
        rw [hpending, Option.toList_some, lastStop_concat, h.reaches last hpending]
        exact harranged.number_le hx
      exact ⟨hnone ▸ h.last, hnone ▸ h.longest⟩

/-- A scan that has arranged some lines arranges the next one. -/
theorem Follows.next (h : carry.Follows physical logical)
    (harranged : Arranged physical (logical ++ carry.pending.toList)) (raw : Text) :
    let line := carry.physicalLine (physical.length + 1) raw
    let after := carry.next (physical.length + 1) raw
    Arranged (physical ++ [line]) (logical ++ after.2.toList ++ after.1.pending.toList) ∧
      after.1.Follows (physical ++ [line]) (logical ++ after.2.toList) := by
  intro line after
  have hnumber : line.number = physical.length + 1 := rfl
  have hstop : lastStop (logical ++ carry.pending.toList) < line.number :=
    Nat.lt_succ_of_le harranged.lastStop_le
  have hbehind := linesAfter_concat physical hstop
  by_cases hgap : line.isBlank ∨ line.isCommentOnly
  · obtain ⟨hpending, hstring, hdepth⟩ := state_of_gap h.closed hgap
    have hlast := h.last
    have hlongest := h.longest
    rw [hpending, Option.toList_none, List.append_nil] at harranged hbehind hlast hlongest
    have hnext := harranged.gap hnumber hgap
    by_cases hblank : line.isBlank
    · have hafter : after = _ := next_of_isBlank hblank
      rw [hafter, hstring, hdepth]
      refine ⟨by simpa [hpending] using hnext, fun _ => ⟨rfl, rfl⟩, by simp [hpending], ?_, ?_⟩
      · simpa [hpending, hbehind] using hlast.concat_blank hblank
      · simpa [hpending, hbehind] using hlongest.concat_blank hlast hblank
    · have hafter : after = _ := next_of_isCommentOnly (hgap.resolve_left hblank)
      rw [hafter, hstring, hdepth]
      refine ⟨by simpa [hpending] using hnext, fun _ => ⟨rfl, rfl⟩, by simp [hpending], ?_, ?_⟩
      · simpa [hpending, hbehind] using lastRun_concat_of_not_blank _ hblank
      · simpa [hpending, hbehind] using hlongest.concat_of_not_blank hblank
  · obtain ⟨part, hpending, hruns⟩ := next_of_code hgap
    have hnext := h.arranged_of_code harranged hgap part
    obtain ⟨hlast, hlongest⟩ := h.runs_of_code harranged hruns
    have hnone : linesAfter (physical ++ [line]) (physical.length + 1) = [] :=
      linesAfter_eq_nil fun x hx => by simpa using hnext.number_le hx
    rcases hpending with ⟨hdone, hpending, hclosed⟩ | ⟨hdone, hpending⟩
    · refine ⟨?_, fun _ => hclosed, ?_, ?_, ?_⟩
      · simpa [after, hdone, hpending] using hnext
      · simp [after, hpending]
      · simpa [after, hdone, hpending, hnone] using hlast
      · simpa [after, hdone, hpending, hnone] using hlongest
    · refine ⟨?_, ?_, ?_, ?_, ?_⟩
      · simpa [after, hdone, hpending] using hnext
      · simp [after, hpending]
      · simp [after, hpending]
      · simpa [after, hdone, hpending, hnone] using hlast
      · simpa [after, hdone, hpending, hnone] using hlongest

/-- A scan that has arranged some lines arranges all that follow. -/
theorem Follows.arranged (h : carry.Follows physical logical)
    (harranged : Arranged physical (logical ++ carry.pending.toList)) (raws : List Text) :
    Arranged (physical ++ physicalLines carry (physical.length + 1) raws)
      (logical ++ logicalLines carry (physical.length + 1) raws) := by
  induction raws generalizing carry physical logical with
  | nil => simpa [physicalLines, logicalLines] using harranged
  | cons raw raws ih =>
      obtain ⟨hnext, hfollows⟩ := h.next harranged raw
      have hrest := ih hfollows hnext
      rw [List.length_append, List.length_singleton] at hrest
      simpa [physicalLines, logicalLines] using hrest

end Carry

theorem map_text_physicalLines (carry : Carry) (number : Nat) (raws : List Text) :
    (physicalLines carry number raws).map (·.text) = raws := by
  induction raws generalizing carry number with
  | nil => rfl
  | cons raw raws ih => rw [physicalLines, List.map_cons, ih, Carry.physicalLine]

theorem exists_eq_physicalLine {carry : Carry} {number : Nat} {raws : List Text}
    {line : PhysicalLine} (h : line ∈ physicalLines carry number raws) :
    ∃ (carry' : Carry) (raw : Text), line = carry'.physicalLine line.number raw := by
  induction raws generalizing carry number with
  | nil => simp [physicalLines] at h
  | cons raw raws ih =>
      rcases List.mem_cons.mp h with rfl | h
      · exact ⟨carry, raw, rfl⟩
      · exact ih h

theorem number_of_mem_physicalLines {carry : Carry} {number : Nat} {raws : List Text}
    {line : PhysicalLine} (h : line ∈ physicalLines carry number raws) :
    number ≤ line.number ∧ raws[line.number - number]? = some line.text := by
  induction raws generalizing carry number with
  | nil => simp [physicalLines] at h
  | cons raw raws ih =>
      rcases List.mem_cons.mp h with rfl | h
      · simp [Carry.physicalLine]
      · obtain ⟨hle, hraw⟩ := ih h
        refine ⟨Nat.le_of_succ_le hle, ?_⟩
        rw [← Nat.succ_sub_succ_eq_sub, Nat.succ_sub hle, List.getElem?_cons_succ]
        exact hraw

/-- The lines of a source, each in its place. -/
structure Scan.SortsLines (s : Scan) (lines : List Text) : Prop where
  texts : s.physical.map (·.text) = lines
  numbers : s.physical.map (·.number) = List.range' 1 lines.length
  /-- A logical line is made of lines of the source. -/
  bounds : ∀ l ∈ s.logical, 0 < l.start ∧ l.start ≤ l.stop ∧ l.stop ≤ lines.length
  ordered : s.logical.Pairwise fun a b => a.stop < b.start
  /-- A line is blank, holds only a comment, or lies in one logical line. -/
  sorted : ∀ line ∈ s.physical,
    (line.isBlank ∧ ¬ line.isCommentOnly ∧ ¬ ∃ l ∈ s.logical, l.Covers line.number) ∨
    (¬ line.isBlank ∧ line.isCommentOnly ∧ ¬ ∃ l ∈ s.logical, l.Covers line.number) ∨
    (¬ line.isBlank ∧ ¬ line.isCommentOnly ∧ ∃! l, l ∈ s.logical ∧ l.Covers line.number)
  continuation : ∀ line ∈ s.physical,
    line.continuation ↔ ∃ l ∈ s.logical, l.start < line.number ∧ line.number ≤ l.stop
  strings : ∀ line ∈ s.physical, line.inString → line.continuation
  /-- Blank lines are counted from the end of the logical line before. -/
  blanks : ∀ front l back, s.logical = front ++ l :: back →
    LongestRun (linesBetween s.physical (lastStop front) l.start) l.blankBefore

theorem arranged_scan (source : Text) :
    Arranged (scan source).physical (scan source).logical :=
  Carry.follows_initial.arranged .empty (Text.lines source)

/-- Every line of a source, well formed or not, is blank, holds only a comment, or lies in one
logical line. -/
theorem scan_sortsLines (source : Text) : (scan source).SortsLines (Text.lines source) := by
  have h := arranged_scan source
  have htexts : (scan source).physical.map (·.text) = Text.lines source :=
    map_text_physicalLines ..
  have hlength : (Text.lines source).length = (scan source).physical.length := by
    rw [← htexts, List.length_map]
  refine ⟨htexts, hlength ▸ h.numbers, fun l hl => hlength ▸ h.bounds hl, h.ordered, ?_,
    fun line hline => h.continuation_iff hline, fun line hline => h.continuation_of_inString hline,
    fun front l back hsplit => h.longestRun hsplit⟩
  intro line hline
  have hcovered := h.covered_iff hline
  obtain ⟨carry, raw, hmade⟩ := exists_eq_physicalLine hline
  have hexclusive : line.isBlank → line.isCommentOnly = false := by
    rw [hmade]
    exact Carry.not_isCommentOnly_of_isBlank
  by_cases hblank : line.isBlank
  · have hcomment : ¬ line.isCommentOnly := by simp [hexclusive hblank]
    exact .inl ⟨hblank, hcomment, fun hl => hcovered.mp hl (.inl hblank)⟩
  by_cases hcomment : line.isCommentOnly
  · exact .inr (.inl ⟨hblank, hcomment, fun hl => hcovered.mp hl (.inr hcomment)⟩)
  · obtain ⟨l, hl, hcovers⟩ := hcovered.mpr (not_or_intro hblank hcomment)
    exact .inr (.inr ⟨hblank, hcomment, l, ⟨hl, hcovers⟩,
      fun l' hl' => h.eq_of_covers hl'.1 hl hl'.2 hcovers⟩)

end CodingStandard
