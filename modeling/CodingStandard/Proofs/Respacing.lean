import CodingStandard.Checker.Spacing
import CodingStandard.Proofs.Arrangement
import CodingStandard.Proofs.Lines
import Mathlib.Data.List.Chain

namespace CodingStandard

/-!
# Spacing a source anew

For two statements in a row there is a number of blank lines between them that breaks no rule. To
space a source by these numbers, its blank lines are taken out, and as many as the rules ask for are
put before the first line of each statement. A statement starts where no literal and no bracket is
open, so the blank lines that go and come leave the reader where it is: a scan finds the same
statements and the same comments as before.
-/

namespace Text

/-- The texts are all the lines of a text: each ends in its only newline, and the last one may have
none. -/
inductive IsCut : List Text → Prop where
  | empty : IsCut []
  | last {line} (hline : '\n' ∉ line) (hne : line ≠ []) : IsCut [line]
  | line {line pieces} (hline : '\n' ∉ line) (hrest : IsCut pieces) :
      IsCut ((line ++ ['\n']) :: pieces)

theorem isCut_pieces (t : Text) : IsCut (pieces t) := by
  induction t with
  | nil => exact .empty
  | cons c t ih =>
      rw [pieces]
      split_ifs with hc
      · subst hc
        exact .line List.not_mem_nil ih
      · generalize pieces t = ps at ih
        cases ih with
        | empty => exact .last (by simpa using Ne.symm hc) (List.cons_ne_nil c [])
        | last hline _ =>
            have hline' := List.not_mem_cons_of_ne_of_not_mem (Ne.symm hc) hline
            exact .last hline' (List.cons_ne_nil c _)
        | line hline hrest =>
            have hline' := List.not_mem_cons_of_ne_of_not_mem (Ne.symm hc) hline
            exact .line hline' hrest

theorem IsCut.replicate_append {ps : List Text} (h : IsCut ps) (k : Nat) :
    IsCut (List.replicate k ['\n'] ++ ps) := by
  induction k with
  | zero => exact h
  | succ k ih => exact .line List.not_mem_nil ih

theorem IsCut.pieces_flatten {ps : List Text} (h : IsCut ps) : pieces ps.flatten = ps := by
  induction h with
  | empty => rfl
  | last hline hne => simp [pieces_of_not_mem hline, hne]
  | line hline _ ih => simp [pieces_append_newline hline, ih]

end Text

/-! ## What blank lines leave alone -/

/-- A line as it stands, wherever it stands. -/
def PhysicalLine.unnumbered (line : PhysicalLine) : PhysicalLine := { line with number := 0 }

@[simp] theorem PhysicalLine.isBlank_unnumbered (line : PhysicalLine) :
    line.unnumbered.isBlank = line.isBlank := rfl

@[simp] theorem PhysicalLine.isCommentOnly_unnumbered (line : PhysicalLine) :
    line.unnumbered.isCommentOnly = line.isCommentOnly := rfl

def PhysicalLine.opens (line : PhysicalLine) : Bool :=
  !line.isBlank && !line.isCommentOnly && !line.continuation

/-- A statement as it stands, whatever stands before it. -/
def LogicalLine.outline (l : LogicalLine) : Text × Nat := (l.text, l.indent)

/-- The lines that are not blank, with their terminators and with what a scan makes of them. -/
def solidFrom (carry : Carry) (number : Nat) (pieces : List Text) : List (Text × PhysicalLine) :=
  ((pieces.zip (physicalLines carry number (pieces.map Text.dropTerminator))).filter
    (!·.2.isBlank)).map fun p => (p.1, p.2.unnumbered)

theorem solidFrom_cons (carry : Carry) (number : Nat) (piece : Text) (pieces : List Text) :
    let line := carry.physicalLine number (Text.dropTerminator piece)
    let rest := solidFrom (carry.next number (Text.dropTerminator piece)).1 (number + 1) pieces
    solidFrom carry number (piece :: pieces) =
      if line.isBlank then rest else (piece, line.unnumbered) :: rest := by
  intro line rest
  rw [solidFrom, List.map_cons, physicalLines, List.zip_cons_cons, List.filter_cons]
  by_cases hblank : line.isBlank
  · simp [line, hblank, rest, solidFrom]
  · simp [line, hblank, rest, solidFrom]

theorem logicalLines_cons (carry : Carry) (number : Nat) (raw : Text) (raws : List Text) :
    logicalLines carry number (raw :: raws) =
      (carry.next number raw).2.toList ++
        logicalLines (carry.next number raw).1 (number + 1) raws := rfl

/-- The lines of a source with blank lines taken out, and with `count i` blank lines before the
first line of the statement `i`. -/
def respace (count : Nat → Nat) (carry : Carry) (number : Nat) : List Text → List Text
  | [] => []
  | piece :: pieces =>
    let raw := Text.dropTerminator piece
    let line := carry.physicalLine number raw
    let done := (carry.next number raw).2.toList.length
    let rest := respace (fun i => count (i + done)) (carry.next number raw).1 (number + 1) pieces
    if line.isBlank then rest
    else List.replicate (if line.opens then count 0 else 0) ['\n'] ++ piece :: rest

theorem isCut_respace {pieces : List Text} (h : Text.IsCut pieces) (count : Nat → Nat)
    (carry : Carry) (number : Nat) : Text.IsCut (respace count carry number pieces) := by
  induction h generalizing count carry number with
  | empty => exact .empty
  | last hline hne =>
      rw [respace]
      split
      · exact .empty
      · exact Text.IsCut.replicate_append (.last hline hne) _
  | line hline _ ih =>
      rw [respace]
      split
      · exact ih ..
      · exact Text.IsCut.replicate_append (.line hline (ih ..)) _

namespace Carry

variable {count : Nat → Nat} {carry old new : Carry} {k number number' : Nat} {raw : Text}

theorem pending_of_opens (h : (carry.physicalLine number raw).opens) : carry.pending = none := by
  simp only [PhysicalLine.opens, physicalLine, Bool.and_eq_true, Bool.not_eq_true'] at h
  simpa using h.2

/-- A scan behind some blank lines where no statement has been left open. -/
def afterBlank (k : Nat) : Carry := ⟨none, 0, none, k, k⟩

theorem isBlank_afterBlank (k number : Nat) :
    ((afterBlank k).physicalLine number []).isBlank = true := rfl

theorem next_afterBlank (k number : Nat) :
    (afterBlank k).next number [] = (afterBlank (k + 1), none) := by
  rw [next_of_isBlank (isBlank_afterBlank k number)]
  simp [afterBlank, lexerAfter, codeOf, Lexer.split, Mode.start, openAfter, Mode.openString?]

theorem logicalLines_replicate (j k number : Nat) (raws : List Text) :
    logicalLines (afterBlank j) number (List.replicate k [] ++ raws) =
      logicalLines (afterBlank (j + k)) (number + k) raws := by
  induction k generalizing j number with
  | zero => rfl
  | succ k ih =>
      rw [List.replicate_succ, List.cons_append, logicalLines_cons, next_afterBlank,
        Option.toList_none, List.nil_append, ih, Nat.add_assoc, Nat.add_assoc, Nat.add_comm 1]

theorem solidFrom_replicate (j k number : Nat) (pieces : List Text) :
    solidFrom (afterBlank j) number (List.replicate k ['\n'] ++ pieces) =
      solidFrom (afterBlank (j + k)) (number + k) pieces := by
  have hterminator : Text.dropTerminator ['\n'] = [] := by decide
  induction k generalizing j number with
  | zero => rfl
  | succ k ih =>
      rw [List.replicate_succ, List.cons_append, solidFrom_cons, hterminator, next_afterBlank,
        if_pos (isBlank_afterBlank j number), ih, Nat.add_assoc, Nat.add_assoc, Nat.add_comm 1]

/-! ## Two scans side by side -/

/-- A scan of the spaced source is as far as one of the source, and `k` blank lines further: it
stands in the same place of the same statement, before which are `count 0` blank lines. -/
structure Matches (count : Nat → Nat) (k : Nat) (old new : Carry) : Prop where
  string : new.string = old.string
  depth : new.depth = old.depth
  pending : new.pending.map (fun l => (l.outline, l.blankBefore)) =
    old.pending.map fun l => (l.outline, count 0)
  run : new.run = k
  longest : new.longest = k
  closed : old.pending = none → old.string = none ∧ old.depth = 0

namespace Matches

theorem initial (count : Nat → Nat) : Matches count 0 Carry.initial Carry.initial :=
  ⟨rfl, rfl, rfl, rfl, rfl, fun _ => ⟨rfl, rfl⟩⟩

theorem isSome_pending (h : Matches count k old new) :
    new.pending.isSome = old.pending.isSome := by
  simpa using congrArg Option.isSome h.pending

theorem unnumbered (h : Matches count k old new) (number number' : Nat) (raw : Text) :
    (new.physicalLine number' raw).unnumbered = (old.physicalLine number raw).unnumbered := by
  simp [physicalLine, PhysicalLine.unnumbered, h.string, h.depth, h.isSome_pending]

theorem isBlank_iff (h : Matches count k old new) :
    (new.physicalLine number' raw).isBlank ↔ (old.physicalLine number raw).isBlank := by
  rw [← PhysicalLine.isBlank_unnumbered, h.unnumbered number, PhysicalLine.isBlank_unnumbered]

theorem isCommentOnly_iff (h : Matches count k old new) :
    (new.physicalLine number' raw).isCommentOnly ↔ (old.physicalLine number raw).isCommentOnly := by
  rw [← PhysicalLine.isCommentOnly_unnumbered, h.unnumbered number,
    PhysicalLine.isCommentOnly_unnumbered]

theorem codeOf_eq (h : Matches count k old new) (raw : Text) :
    new.codeOf raw = old.codeOf raw := by
  rw [codeOf, codeOf, h.string, h.depth]

theorem lexerAfter_eq (h : Matches count k old new) (raw : Text) :
    new.lexerAfter raw = old.lexerAfter raw := by
  rw [lexerAfter, lexerAfter, h.codeOf_eq, h.string, h.depth]

theorem completes_eq (h : Matches count k old new) (raw : Text) :
    new.completes raw = old.completes raw := by
  rw [completes, completes, h.lexerAfter_eq, h.codeOf_eq]

theorem eq_afterBlank (h : Matches count k old new) (hpending : old.pending = none) :
    new = afterBlank k := by
  obtain ⟨hstring, hdepth⟩ := h.closed hpending
  have hnone : new.pending = none := by simpa [hpending] using h.isSome_pending
  obtain ⟨string, depth, pending, run, longest⟩ := new
  obtain rfl : run = k := h.run
  obtain rfl : longest = run := h.longest
  obtain rfl : pending = none := hnone
  obtain rfl : string = none := h.string.trans hstring
  obtain rfl : depth = 0 := h.depth.trans hdepth
  rfl

theorem afterBlank (h : Matches count k old new) (hpending : old.pending = none) (j : Nat) :
    Matches count j old (afterBlank j) := by
  obtain ⟨hstring, hdepth⟩ := h.closed hpending
  exact ⟨hstring.symm, hdepth.symm, by rw [hpending]; rfl, rfl, rfl, h.closed⟩

theorem of_isBlank (h : Matches count k old new)
    (hblank : (old.physicalLine number raw).isBlank) :
    (old.next number raw).2 = none ∧ Matches count k (old.next number raw).1 new := by
  obtain ⟨hpending, hstring, hdepth⟩ := state_of_gap h.closed (.inl hblank)
  obtain ⟨hold, hbrackets⟩ := h.closed hpending
  rw [next_of_isBlank hblank]
  exact ⟨rfl, by simp [h.string, hold, hstring], by simp [h.depth, hbrackets, hdepth], h.pending,
    h.run, h.longest, fun _ => ⟨hstring, hdepth⟩⟩

theorem of_isCommentOnly (h : Matches count 0 old new) (number' : Nat)
    (hcomment : (old.physicalLine number raw).isCommentOnly) :
    (old.next number raw).2 = none ∧ (new.next number' raw).2 = none ∧
      Matches count 0 (old.next number raw).1 (new.next number' raw).1 := by
  obtain ⟨-, hstring, hdepth⟩ := state_of_gap h.closed (.inr hcomment)
  rw [next_of_isCommentOnly hcomment, next_of_isCommentOnly (h.isCommentOnly_iff.mpr hcomment),
    h.lexerAfter_eq]
  exact ⟨rfl, rfl, rfl, rfl, h.pending, rfl, h.longest, fun _ => ⟨hstring, hdepth⟩⟩

/-- A line of code adds the same to the statement it belongs to. -/
theorem extended_eq (h : Matches count k old new) (hk : old.pending = none → k = count 0)
    (number number' : Nat) (raw : Text) :
    ((new.extended number' raw).outline, (new.extended number' raw).blankBefore) =
      ((old.extended number raw).outline, count 0) := by
  have hpending := h.pending
  rw [extended, extended, h.lexerAfter_eq, h.codeOf_eq, h.isSome_pending]
  generalize segment _ _ _ = part
  cases hold : old.pending with
  | none =>
      rw [h.eq_afterBlank hold, ← hk hold]
      simp [extend, hold, Carry.afterBlank, LogicalLine.outline]
  | some l =>
      rw [hold] at hpending
      obtain ⟨l', hnew, heq⟩ := Option.map_eq_some_iff.mp hpending
      simp_all [extend, LogicalLine.outline]

theorem of_code (h : Matches count k old new) (number' : Nat)
    (hcode : ¬ ((old.physicalLine number raw).isBlank ∨
      (old.physicalLine number raw).isCommentOnly))
    (hk : k = if old.pending.isSome then 0 else count 0) :
    (new.next number' raw).2.map (fun l => (l.outline, l.blankBefore)) =
        (old.next number raw).2.map (fun l => (l.outline, count 0)) ∧
      Matches (fun i => count (i + (old.next number raw).2.toList.length)) 0
        (old.next number raw).1 (new.next number' raw).1 := by
  have hnew : ¬ ((new.physicalLine number' raw).isBlank ∨
      (new.physicalLine number' raw).isCommentOnly) := by
    rw [h.isBlank_iff, h.isCommentOnly_iff]
    exact hcode
  have hextended := h.extended_eq (fun hnone => by simpa [hnone] using hk) number number' raw
  -- A statement that is open has been begun, and with it the count of blank lines.
  have hzero : (if new.pending.isSome then k else 0) = 0 := by
    rw [hk, h.isSome_pending]
    split <;> rfl
  rw [next_eq_of_code hcode, next_eq_of_code hnew, h.lexerAfter_eq, h.completes_eq]
  by_cases hdone : old.completes raw
  · simp only [if_pos hdone]
    exact ⟨congrArg some hextended, rfl, rfl, rfl, h.run ▸ hzero, h.longest ▸ hzero,
      fun _ => closed_of_completes hdone⟩
  · simp only [if_neg hdone]
    exact ⟨rfl, rfl, rfl, congrArg some hextended, h.run ▸ hzero, h.longest ▸ hzero, nofun⟩

/-- Both scans read on over a line that is not blank. -/
theorem of_not_isBlank (h : Matches count k old new) (number' : Nat)
    (hsolid : ¬ (old.physicalLine number raw).isBlank)
    (hk : k = if (old.physicalLine number raw).opens then count 0 else 0) :
    (new.next number' raw).2.map (fun l => (l.outline, l.blankBefore)) =
        (old.next number raw).2.map (fun l => (l.outline, count 0)) ∧
      Matches (fun i => count (i + (old.next number raw).2.toList.length)) 0
        (old.next number raw).1 (new.next number' raw).1 := by
  by_cases hcomment : (old.physicalLine number raw).isCommentOnly
  · obtain rfl : k = 0 := by simpa [PhysicalLine.opens, hcomment] using hk
    obtain ⟨hold, hnew, hmatches⟩ := h.of_isCommentOnly number' hcomment
    rw [hold, hnew]
    exact ⟨rfl, hmatches⟩
  · have hopens : (old.physicalLine number raw).opens = !old.pending.isSome := by
      simp only [PhysicalLine.opens, hsolid, hcomment]
      rfl
    refine h.of_code number' (not_or_intro hsolid hcomment) (hk.trans ?_)
    rw [hopens]
    cases old.pending <;> rfl

end Matches

/-- The lines ahead of one scan are those ahead of the other, blank lines apart, and they make up
the same statements, with `count i` blank lines before the statement `i`. -/
structure Respaces (count : Nat → Nat) (old new : Carry) (number number' : Nat)
    (pieces spaced : List Text) : Prop where
  solid : solidFrom new number' spaced = solidFrom old number pieces
  logical : (logicalLines new number' (spaced.map Text.dropTerminator)).map
      (fun l => (l.outline, l.blankBefore)) =
    (logicalLines old number (pieces.map Text.dropTerminator)).mapIdx
      fun i l => (l.outline, count i)

namespace Respaces

variable {piece : Text} {pieces spaced : List Text}

theorem nil (h : Matches count k old new) : Respaces count old new number number' [] [] := by
  have hpending := congrArg Option.toList h.pending
  rw [Option.toList_map, Option.toList_map] at hpending
  refine ⟨rfl, hpending.trans ?_⟩
  rw [List.map_nil, logicalLines]
  cases old.pending <;> rfl

theorem skip (hblank : (old.physicalLine number (Text.dropTerminator piece)).isBlank)
    (hnone : (old.next number (Text.dropTerminator piece)).2 = none)
    (h : Respaces count (old.next number (Text.dropTerminator piece)).1 new (number + 1) number'
      pieces spaced) :
    Respaces count old new number number' (piece :: pieces) spaced := by
  constructor
  · rw [solidFrom_cons, if_pos hblank, h.solid]
  · rw [List.map_cons, logicalLines_cons, hnone, Option.toList_none, List.nil_append, h.logical]

theorem keep (h : Matches count k old new)
    (hsolid : ¬ (old.physicalLine number (Text.dropTerminator piece)).isBlank)
    (hdone : (new.next number' (Text.dropTerminator piece)).2.map
        (fun l => (l.outline, l.blankBefore)) =
      (old.next number (Text.dropTerminator piece)).2.map fun l => (l.outline, count 0))
    (hrest : Respaces
      (fun i => count (i + (old.next number (Text.dropTerminator piece)).2.toList.length))
      (old.next number (Text.dropTerminator piece)).1
      (new.next number' (Text.dropTerminator piece)).1 (number + 1) (number' + 1) pieces spaced) :
    Respaces count old new number number' (piece :: pieces) (piece :: spaced) := by
  constructor
  · rw [solidFrom_cons, solidFrom_cons, if_neg hsolid, if_neg (h.isBlank_iff.not.mpr hsolid),
      h.unnumbered number, hrest.solid]
  · rw [List.map_cons, List.map_cons, logicalLines_cons, logicalLines_cons, List.map_append,
      List.mapIdx_append, hrest.logical, ← Option.toList_map, hdone]
    cases (old.next number (Text.dropTerminator piece)).2 <;> rfl

/-- Blank lines can be inserted where no statement is open. -/
theorem insert (h : Matches count 0 old new) (hk : k = 0 ∨ old.pending = none)
    (hrest : ∀ behind, Matches count k old behind →
      Respaces count old behind number (number' + k) pieces spaced) :
    Respaces count old new number number' pieces (List.replicate k ['\n'] ++ spaced) := by
  rcases hk with rfl | hpending
  · exact hrest new h
  · have hspaced := hrest _ (h.afterBlank hpending k)
    have hterminator : Text.dropTerminator ['\n'] = [] := by decide
    rw [h.eq_afterBlank hpending]
    constructor
    · rw [solidFrom_replicate, Nat.zero_add, hspaced.solid]
    · rw [List.map_append, List.map_replicate, hterminator, logicalLines_replicate, Nat.zero_add,
        hspaced.logical]

end Respaces

theorem Matches.respaces (h : Matches count 0 old new) (number number' : Nat)
    (pieces : List Text) :
    Respaces count old new number number' pieces (respace count old number pieces) := by
  induction pieces generalizing count old new number number' with
  | nil => exact .nil h
  | cons piece pieces ih =>
      rw [respace]
      split
      case isTrue hblank =>
        obtain ⟨hnone, hmatches⟩ := h.of_isBlank hblank
        apply Respaces.skip hblank hnone
        rw [hnone]
        exact ih hmatches ..
      case isFalse hsolid =>
        apply Respaces.insert h
        · split
          case isTrue hopens => exact .inr (pending_of_opens hopens)
          case isFalse => exact .inl rfl
        · intro behind hbehind
          obtain ⟨hdone, hmatches⟩ := hbehind.of_not_isBlank _ hsolid rfl
          exact .keep hbehind hsolid hdone (ih hmatches ..)

end Carry

/-! ## A number that breaks no rule -/

namespace Spacing

variable {maxBlankLines : Nat} {previous current previous' current' : LogicalLine}
  {logical : List LogicalLine}

/-- A number of blank lines between two statements that no rule objects to. -/
def allowance (previous current : LogicalLine) : Nat :=
  if isDecorator previous.text then 0
  else if opensDefinition current.text then
    if current.indent = 0 then 3
    else if isDocstring previous.text then 0
    else 2
  else 0

theorem between?_eq_none (h : current.blankBefore = allowance previous current) :
    between? maxBlankLines previous current = none := by
  unfold allowance at h
  unfold between?
  split_ifs at h ⊢ <;> simp_all

theorem allowance_congr (hprevious : previous'.outline = previous.outline)
    (hcurrent : current'.outline = current.outline) :
    allowance previous' current' = allowance previous current := by
  simp only [LogicalLine.outline, Prod.mk.injEq] at hprevious hcurrent
  rw [allowance, allowance, hprevious.1, hcurrent.1, hcurrent.2]

/-- The numbers of blank lines before some statements, by their place. No rule is about the first
one. -/
def allowances (logical : List LogicalLine) (i : Nat) : Nat :=
  (0 :: List.zipWith allowance logical logical.tail).getD i 0

theorem allowances_succ {i : Nat} (h : i + 1 < logical.length) :
    allowances logical (i + 1) = allowance logical[i] logical[i + 1] := by
  have htail : i < (List.zipWith allowance logical logical.tail).length := by
    rw [List.length_zipWith, List.length_tail]
    omega
  rw [allowances, List.getD_cons_succ, List.getD_eq_getElem?_getD, List.getElem?_eq_getElem htail,
    Option.getD_some, List.getElem_zipWith, List.getElem_tail]

theorem blankLineFindings_eq_nil_iff :
    blankLineFindings maxBlankLines logical = [] ↔
      logical.IsChain fun previous current => between? maxBlankLines previous current = none := by
  induction logical with
  | nil => simp [blankLineFindings]
  | cons previous rest ih =>
      cases rest with
      | nil => simp [blankLineFindings]
      | cons current rest => simp [blankLineFindings, ih]

theorem blankLineFindings_of_spaced {spaced : List LogicalLine}
    (h : spaced.map (fun l => (l.outline, l.blankBefore)) =
      logical.mapIdx fun i l => (l.outline, allowances logical i)) :
    blankLineFindings maxBlankLines spaced = [] := by
  have hlength : spaced.length = logical.length := by simpa using congrArg List.length h
  have hspaced : ∀ (i : Nat) (hi : i < spaced.length),
      (spaced[i].outline, spaced[i].blankBefore) =
        (logical[i].outline, allowances logical i) := by
    intro i hi
    have heq := List.getElem_of_eq h (by simpa using hi)
    rwa [List.getElem_map, List.getElem_mapIdx] at heq
  rw [blankLineFindings_eq_nil_iff, List.isChain_iff_getElem]
  intro i hi
  obtain ⟨hprevious, -⟩ := Prod.mk.inj (hspaced i (by omega))
  obtain ⟨hcurrent, hblank⟩ := Prod.mk.inj (hspaced (i + 1) hi)
  refine between?_eq_none ?_
  rw [hblank, allowance_congr hprevious hcurrent, allowances_succ]

end Spacing

/-! ## The spaced source -/

/-- What is left of a source when its blank lines are taken out: the other lines, with their
terminators. -/
def solidLines (source : Text) : List Text :=
  (((Text.pieces source).zip (scan source).physical).filter (!·.2.isBlank)).map (·.1)

def commentLines (source : Text) : List PhysicalLine :=
  ((scan source).physical.filter (·.isCommentOnly)).map (·.unnumbered)

/-- One source is the other with blank lines inserted and deleted, and the statements and the
comment lines are the same. -/
structure DiffersInBlankLines (source other : Text) : Prop where
  lines : solidLines other = solidLines source
  statements : (scan other).logical.map (·.outline) = (scan source).logical.map (·.outline)
  comments : commentLines other = commentLines source

theorem solidLines_eq (source : Text) :
    solidLines source = (solidFrom .initial 1 (Text.pieces source)).map (·.1) := by
  rw [solidFrom, List.map_map]
  rfl

theorem map_snd_solidFrom (carry : Carry) (number : Nat) (pieces : List Text) :
    (solidFrom carry number pieces).map (·.2) =
      ((physicalLines carry number (pieces.map Text.dropTerminator)).filter
        (!·.isBlank)).map (·.unnumbered) := by
  induction pieces generalizing carry number with
  | nil => rfl
  | cons piece pieces ih =>
      rw [solidFrom_cons, List.map_cons, physicalLines, List.filter_cons]
      by_cases hblank : (carry.physicalLine number (Text.dropTerminator piece)).isBlank
      · simp [hblank, ih]
      · simp [hblank, ih]

theorem commentLines_eq (source : Text) :
    commentLines source =
      ((solidFrom .initial 1 (Text.pieces source)).map (·.2)).filter (·.isCommentOnly) := by
  have hcomment : ∀ line ∈ (scan source).physical,
      line.isCommentOnly = (line.isCommentOnly && !line.isBlank) := by
    intro line hline
    obtain ⟨carry, raw, hmade⟩ := exists_eq_physicalLine hline
    rw [hmade]
    by_cases hblank : (carry.physicalLine line.number raw).isBlank
    · simp [Carry.not_isCommentOnly_of_isBlank hblank]
    · simp [hblank]
  calc commentLines source
      = (((scan source).physical.filter (!·.isBlank)).filter (·.isCommentOnly)).map
          (·.unnumbered) := by
        rw [commentLines, List.filter_congr hcomment, List.filter_filter]
    _ = (((scan source).physical.filter (!·.isBlank)).map (·.unnumbered)).filter
          (·.isCommentOnly) := by
        rw [List.filter_map]
        rfl
    _ = _ := by
        rw [map_snd_solidFrom]
        rfl

namespace Spacing

/-- Every source can be spaced so that no rule for blank lines is broken. -/
theorem exists_blankLineFindings_eq_nil (source : Text) :
    ∃ other, DiffersInBlankLines source other ∧
      ∀ maxBlankLines, blankLineFindings maxBlankLines (scan other).logical = [] := by
  let count := allowances (scan source).logical
  let spaced := respace count .initial 1 (Text.pieces source)
  have hpieces : Text.pieces spaced.flatten = spaced :=
    (isCut_respace (Text.isCut_pieces source) ..).pieces_flatten
  obtain ⟨hsolid, hlogical⟩ := (Carry.Matches.initial count).respaces 1 1 (Text.pieces source)
  have hscan : (scan spaced.flatten).logical =
      logicalLines .initial 1 (spaced.map Text.dropTerminator) := by
    rw [scan, Text.lines, hpieces]
  refine ⟨spaced.flatten, ⟨?_, ?_, ?_⟩, fun maxBlankLines => ?_⟩
  · rw [solidLines_eq, solidLines_eq, hpieces, hsolid]
  · have houtline := congrArg (List.map Prod.fst) hlogical
    rw [List.map_map, List.mapIdx_eq_zipIdx_map, List.map_map] at houtline
    rw [hscan]
    refine houtline.trans ?_
    rw [← List.zipIdx_map_fst 0 (scan source).logical, List.map_map]
    rfl
  · rw [commentLines_eq, commentLines_eq, hpieces, hsolid]
  · rw [hscan]
    exact blankLineFindings_of_spaced hlogical

end Spacing

end CodingStandard
