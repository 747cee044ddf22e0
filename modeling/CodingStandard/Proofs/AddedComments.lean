import CodingStandard.Proofs.Renumbering
import CodingStandard.Proofs.Trimming

namespace CodingStandard

/-!
# Adding comments

A comment can be added on a line of its own or behind the code of a line. The statements of the
source stay as they are, and so do the findings about blank lines. A comment on its own line parts
the blank lines around it, so it must not stand between two of them.
-/

/-- A comment with white space in front of it. -/
def IsRemark (t : Text) : Prop := ∃ gap rest, t = gap ++ '#' :: rest ∧ Text.isWhite gap

/-- One source is the other with a comment added, and a line with a number has moved. -/
inductive AddsComment (source edited : Text) : (moved : Nat → Nat) → Prop where
  /-- On a line of its own, before a line that continues nothing. The line above, if there is one,
  or the line below is not blank. -/
  | onOwnLine {above below : List PhysicalLine} {line : PhysicalLine} {remark : Text}
      (hsource : (scan source).physical = above ++ line :: below)
      (hedited : Text.lines edited = above.map (·.text) ++ remark :: (line :: below).map (·.text))
      (hremark : IsRemark remark) (hfirst : line.continuation = false)
      (hsolid : line.isBlank = false ∨ ∀ last, above.getLast? = some last → last.isBlank = false) :
      AddsComment source edited (shiftBelow above.length)
  /-- Behind a line that is not blank and that ends in code, outside of comments and literals. -/
  | behindCode {above below : List PhysicalLine} {line : PhysicalLine} {remark : Text}
      (hsource : (scan source).physical = above ++ line :: below)
      (hedited : Text.lines edited =
        above.map (·.text) ++ (line.text ++ remark) :: below.map (·.text))
      (hremark : IsRemark remark) (hsolid : line.isBlank = false)
      (hcode : (Carry.behind (above.map (·.text))).InCodeAt line.text) :
      AddsComment source edited id

/-- What a scan makes of a line depends on the texts of the lines above. -/
theorem of_physical_scan_eq {source : Text} {above below : List PhysicalLine} {line : PhysicalLine}
    (h : (scan source).physical = above ++ line :: below) :
    Text.lines source = above.map (·.text) ++ (line :: below).map (·.text) ∧
      physicalLines .initial 1 (above.map (·.text)) = above ∧
      (Carry.behind (above.map (·.text))).physicalLine (above.length + 1) line.text = line := by
  have hlines : Text.lines source = above.map (·.text) ++ line.text :: below.map (·.text) := by
    have htexts : (scan source).physical.map (·.text) = Text.lines source :=
      map_text_physicalLines ..
    rw [← htexts, h, List.map_append, List.map_cons]
  have hscan := physical_scan_of_lines hlines
  rw [h] at hscan
  have hlength : above.length = (physicalLines .initial 1 (above.map (·.text))).length := by
    rw [length_physicalLines, List.length_map]
  obtain ⟨habove, hbelow⟩ := List.append_inj hscan hlength
  rw [List.length_map] at hbelow
  exact ⟨hlines, habove.symm, (List.cons.inj hbelow).1.symm⟩

namespace Carry

variable {carry : Carry} {number : Nat} {raw front gap comment remark : Text} {above : List Text}

theorem InCodeAt.codeOf_comment (h : carry.InCodeAt front) (hmark : comment.head? = some '#') :
    carry.codeOf (front ++ comment) = front := by
  rw [codeOf, h.split_comment hmark]

theorem InCodeAt.lexerAfter_comment (h : carry.InCodeAt front)
    (hmark : comment.head? = some '#') :
    carry.lexerAfter (front ++ comment) = carry.lexerAfter front := by
  rw [lexerAfter, h.codeOf_comment hmark, h.lexerAfter_eq]
  rfl

/-! ## A comment on a line of its own -/

theorem isCommentOnly_of_isRemark (hpending : carry.pending = none) (hstring : carry.string = none)
    (hremark : IsRemark remark) (number : Nat) :
    (carry.physicalLine number remark).isCommentOnly := by
  obtain ⟨gap, rest, rfl, hgap⟩ := hremark
  have hstart : carry.InCodeAt [] := ⟨rfl, by rw [lexerAfter, hstring]; rfl⟩
  have hcode : carry.InCodeAt gap := (hstart.append_white hgap).1
  have hmark : ('#' :: rest).head? = some '#' := rfl
  rw [PhysicalLine.isCommentOnly, code_physicalLine, hcode.codeOf_comment hmark, hgap,
    hcode.comment_physicalLine hmark]
  simp [physicalLine, hpending, hstring]

theorem next_of_isRemark (hclosed : carry.pending = none → carry.string = none ∧ carry.depth = 0)
    (hpending : carry.pending = none) (hremark : IsRemark remark) (number : Nat) :
    carry.next number remark = ({ carry with run := 0 }, none) := by
  obtain ⟨hstring, hdepth⟩ := hclosed hpending
  have hcomment := isCommentOnly_of_isRemark hpending hstring hremark number
  obtain ⟨-, hnone, hzero⟩ := state_of_gap hclosed (.inr hcomment)
  rw [next_of_isCommentOnly hcomment, hnone, hzero, ← hstring, ← hdepth]

theorem next_of_run_eq_zero (hpending : carry.pending = none)
    (hsolid : (carry.physicalLine number raw).isBlank = false) :
    ({ carry with run := 0 } : Carry).next number raw = carry.next number raw := by
  let reset : Carry := { carry with run := 0 }
  have hblank : ¬ (carry.physicalLine number raw).isBlank := by simp [hsolid]
  by_cases hcomment : (carry.physicalLine number raw).isCommentOnly
  · have hcomment' : (reset.physicalLine number raw).isCommentOnly := hcomment
    rw [next_of_isCommentOnly hcomment, next_of_isCommentOnly hcomment']
    rfl
  · have hcode := not_or_intro hblank hcomment
    have hcode' : ¬ ((reset.physicalLine number raw).isBlank ∨
        (reset.physicalLine number raw).isCommentOnly) := hcode
    rw [next_eq_of_code hcode, next_eq_of_code hcode']
    have hreset : reset.pending = none := hpending
    simp only [hpending, hreset]
    rfl

theorem Follows.run_next {physical : List PhysicalLine} {logical : List LogicalLine}
    (h : carry.Follows physical logical)
    (harranged : Arranged physical (logical ++ carry.pending.toList))
    (hsolid : (carry.physicalLine number raw).isBlank = false) :
    (carry.next number raw).1.run = 0 := by
  have hblank : ¬ (carry.physicalLine number raw).isBlank := by simp [hsolid]
  by_cases hcomment : (carry.physicalLine number raw).isCommentOnly
  · rw [next_of_isCommentOnly hcomment]
  · rw [next_eq_of_code (not_or_intro hblank hcomment)]
    exact (h.runs_of_code harranged ⟨rfl, rfl⟩).1.unique lastRun_nil

/-- No blank line has been counted where the line above is not blank. -/
theorem run_behind (h : ∀ last, (physicalLines .initial 1 above).getLast? = some last →
    last.isBlank = false) : (behind above).run = 0 := by
  rcases above.eq_nil_or_concat' with rfl | ⟨front, raw, rfl⟩
  · rfl
  · rw [behind_concat]
    refine (follows_behind front).run_next (arranged_behind front) (h _ ?_)
    rw [physicalLines_append, physicalLines, physicalLines, List.getLast?_concat, Nat.add_comm 1]
    rfl

/-! ## A comment behind code -/

theorem segment_append_white (hgap : Text.isWhite gap) (continued backslash : Bool) (code : Text) :
    segment continued backslash (code ++ gap) = segment continued backslash code := by
  simp only [segment, Text.trim_append_of_isWhite hgap, Text.trimEnd_append_of_isWhite hgap]

theorem endsInBackslash_append_white (hgap : Text.isWhite gap) (string : Option OpenString)
    (code : Text) : endsInBackslash string (code ++ gap) = endsInBackslash string code := by
  rw [endsInBackslash, endsInBackslash, Text.trimEnd_append_of_isWhite hgap]

theorem isWhite_of_isBlank_eq_false (hpending : carry.pending = none)
    (hclosed : carry.pending = none → carry.string = none ∧ carry.depth = 0)
    (hsolid : (carry.physicalLine number raw).isBlank = false) : Text.isWhite raw = false := by
  simpa [PhysicalLine.isBlank, physicalLine, hpending, (hclosed hpending).1] using hsolid

/-- A comment behind code changes nothing about its line. -/
theorem InCodeAt.next_append_remark (h : carry.InCodeAt raw)
    (hclosed : carry.pending = none → carry.string = none ∧ carry.depth = 0)
    (hsolid : (carry.physicalLine number raw).isBlank = false) (hremark : IsRemark remark) :
    carry.next number (raw ++ remark) = carry.next number raw := by
  obtain ⟨gap, rest, rfl, hgap⟩ := hremark
  have hmark : ('#' :: rest).head? = some '#' := rfl
  obtain ⟨hcode, hdepth⟩ := h.append_white hgap
  rw [← List.append_assoc]
  -- Neither line is a gap between statements.
  have hplain : ¬ ((carry.physicalLine number raw).isBlank ∨
      (carry.physicalLine number raw).isCommentOnly) := by
    have hnone : (carry.physicalLine number raw).comment = none := h.uncommented
    simp [hsolid, PhysicalLine.isCommentOnly, hnone]
  have hplain' : ¬ ((carry.physicalLine number (raw ++ gap ++ '#' :: rest)).isBlank ∨
      (carry.physicalLine number (raw ++ gap ++ '#' :: rest)).isCommentOnly) := by
    rintro hgap'
    have hwhite := isWhite_of_gap hgap'
    have hpending : carry.pending = none := by
      simpa [physicalLine] using (PhysicalLine.fresh_of_gap hgap').1
    rw [hcode.codeOf_comment hmark, Text.isWhite, List.all_append, Bool.and_eq_true] at hwhite
    exact absurd hwhite.1 (by simpa [Text.isWhite] using
      isWhite_of_isBlank_eq_false hpending hclosed hsolid)
  have hstring : openAfter (carry.lexerAfter raw).mode raw = none := openAfter_of_inCode h.inCode _
  have hstring' : openAfter (carry.lexerAfter (raw ++ gap ++ '#' :: rest)).mode
      (raw ++ gap ++ '#' :: rest) = none := by
    rw [hcode.lexerAfter_comment hmark]
    exact openAfter_of_inCode hcode.inCode _
  have hbrackets : (carry.lexerAfter (raw ++ gap ++ '#' :: rest)).depth =
      (carry.lexerAfter raw).depth := by
    rw [hcode.lexerAfter_comment hmark, hdepth]
  have hcompletes : carry.completes (raw ++ gap ++ '#' :: rest) = carry.completes raw := by
    rw [completes, completes, hstring, hstring', hbrackets, hcode.codeOf_comment hmark,
      h.codeOf_eq, endsInBackslash_append_white hgap]
  have hextended : carry.extended number (raw ++ gap ++ '#' :: rest) =
      carry.extended number raw := by
    rw [extended, extended, hstring, hstring', hcode.codeOf_comment hmark, h.codeOf_eq,
      endsInBackslash_append_white hgap, segment_append_white hgap, extend, extend]
    cases hpending : carry.pending with
    | some l => rfl
    | none =>
        -- A statement starts here, and takes its indentation from the whole line.
        have hsolid' := isWhite_of_isBlank_eq_false hpending hclosed hsolid
        simp only [List.append_assoc, indentWidth_append hsolid']
  rw [next_eq_of_code hplain, next_eq_of_code hplain', hstring, hstring', hbrackets, hcompletes,
    hextended]

end Carry

/-! ## The statements of the source -/

namespace Carry

/-- What follows a line of comment only is read as if it were not there, unless blank lines stand on
both sides of it. -/
theorem logicalLines_of_isRemark {above : List Text} {raw remark : Text}
    (hpending : (behind above).pending = none) (hremark : IsRemark remark)
    (hsolid : ((behind above).physicalLine (above.length + 1) raw).isBlank = false ∨
      ∀ last, (physicalLines .initial 1 above).getLast? = some last → last.isBlank = false)
    (below : List Text) :
    logicalLines (behind above) (above.length + 1) (remark :: raw :: below) =
      logicalLines (behind above) (above.length + 2) (raw :: below) := by
  have hclosed := (follows_behind above).closed
  -- All that the comment does is to end the run of blank lines, which ends at the next line as
  -- well, or has not begun.
  rw [logicalLines_cons, next_of_isRemark hclosed hpending hremark, Option.toList_none,
    List.nil_append]
  rcases hsolid with hbelow | habove
  · have hbelow' : ((behind above).physicalLine (above.length + 2) raw).isBlank = false := hbelow
    rw [logicalLines_cons, logicalLines_cons, next_of_run_eq_zero hpending hbelow']
  · rw [← run_behind habove]

end Carry

namespace AddsComment

variable {source edited : Text} {moved : Nat → Nat}

theorem logical_eq (h : AddsComment source edited moved) :
    (scan edited).logical = (scan source).logical.map (·.renumber moved moved) := by
  cases h with
  | @onOwnLine above below line remark hsource hedited hremark hfirst hsolid =>
      obtain ⟨hlines, habove, hline⟩ := of_physical_scan_eq hsource
      generalize htexts : above.map (·.text) = texts at hlines habove hline hedited
      have hlength : above.length = texts.length := by rw [← htexts, List.length_map]
      rw [hlength] at hline ⊢
      have hpending : (Carry.behind texts).pending = none := by
        rw [← hline] at hfirst
        simpa [Carry.physicalLine] using hfirst
      rw [← habove, ← hline] at hsolid
      have hkeep : ∀ n ≤ texts.length, shiftBelow texts.length n = n :=
        fun n => shiftBelow_of_le
      have hshift : ∀ n, texts.length + 1 ≤ n → shiftBelow texts.length n = n + 1 :=
        fun n hn => shiftBelow_of_lt hn
      refine logical_scan_renumber hlines hedited hkeep hkeep ?_
      rw [← logicalLines_renumber _ _ hshift hshift, (renumber_above hkeep hkeep).2, List.map_cons,
        Carry.logicalLines_of_isRemark hpending hremark hsolid]
  | @behindCode above below line remark hsource hedited hremark hsolid hcode =>
      obtain ⟨hlines, -, hline⟩ := of_physical_scan_eq hsource
      generalize htexts : above.map (·.text) = texts at hlines hline hedited hcode
      have hlength : above.length = texts.length := by rw [← htexts, List.length_map]
      rw [← hline, hlength] at hsolid
      have hkeep : ∀ n ≤ texts.length, id n = n := fun _ _ => rfl
      refine logical_scan_renumber hlines hedited hkeep hkeep ?_
      rw [List.map_cons, logicalLines_cons, logicalLines_cons,
        hcode.next_append_remark (Carry.follows_behind texts).closed hsolid hremark]
      exact (List.map_id _).symm

end AddsComment

namespace Spacing

/-- A comment that is added to a source changes no statement and no finding about blank lines, the
numbers of the lines below it apart. -/
theorem statements_addsComment {source edited : Text} {moved : Nat → Nat}
    (h : AddsComment source edited moved) :
    (scan edited).logical = (scan source).logical.map (·.renumber moved moved) ∧
      ∀ maxBlankLines, blankLineFindings maxBlankLines (scan edited).logical =
        (blankLineFindings maxBlankLines (scan source).logical).map (·.renumber moved) := by
  refine ⟨h.logical_eq, fun maxBlankLines => ?_⟩
  rw [h.logical_eq, blankLineFindings_renumber]

/-- A function that too few blank lines part from a statement on two lines. -/
def unremarked : Text := "x = [1,\n    2]\n\n\ndef f():\n    y = '#'\n".toList

/-- The same source with a comment on a line of its own, above the function. -/
def remarkedAbove : Text :=
  "x = [1,\n    2]\n\n\n  # Note\ndef f():\n    y = '#'\n".toList

/-- The same source with a comment behind the second line, in which no literal is open. -/
def remarkedBehind : Text :=
  "x = [1,\n    2]  # Two\n\n\ndef f():\n    y = '#'\n".toList

theorem statements_addsComment_remarked :
    AddsComment unremarked remarkedAbove (shiftBelow 4) ∧
      AddsComment unremarked remarkedBehind id ∧
      (scan remarkedBehind).logical = (scan unremarked).logical ∧
      blankLineFindings 1 (scan unremarked).logical = [⟨expectedThree.code, 5, 1, some "2"⟩] ∧
      blankLineFindings 1 (scan remarkedAbove).logical = [⟨expectedThree.code, 6, 1, some "2"⟩] ∧
      blankLineFindings 1 (scan remarkedBehind).logical =
        [⟨expectedThree.code, 5, 1, some "2"⟩] := by
  let physical := (scan unremarked).physical
  let function : PhysicalLine := ⟨5, "def f():".toList, none, false, false⟩
  let second : PhysicalLine := ⟨2, "    2]".toList, none, false, true⟩
  have hfunction : physical = physical.take 4 ++ function :: physical.drop 5 := by decide
  have hsecond : physical = physical.take 1 ++ second :: physical.drop 2 := by decide
  have hnoted : Text.lines remarkedAbove = (physical.take 4).map (·.text) ++
      "  # Note".toList :: (function :: physical.drop 5).map (·.text) := by decide
  have hnoted' : Text.lines remarkedBehind = (physical.take 1).map (·.text) ++
      (second.text ++ "  # Two".toList) :: (physical.drop 2).map (·.text) := by decide
  have habove : AddsComment unremarked remarkedAbove (shiftBelow 4) :=
    .onOwnLine hfunction hnoted ⟨"  ".toList, " Note".toList, by decide, by decide⟩ rfl
      (.inl (by decide))
  have hbehind : AddsComment unremarked remarkedBehind id :=
    .behindCode hsecond hnoted' ⟨"  ".toList, " Two".toList, by decide, by decide⟩ (by decide)
      ⟨by decide, by decide⟩
  have hfindings :
      blankLineFindings 1 (scan unremarked).logical = [⟨expectedThree.code, 5, 1, some "2"⟩] := by
    decide
  obtain ⟨-, hfindingsAbove⟩ := statements_addsComment habove
  obtain ⟨hstatements, hfindingsBehind⟩ := statements_addsComment hbehind
  refine ⟨habove, hbehind, ?_, hfindings, ?_, ?_⟩
  · rw [hstatements]
    exact List.map_id _
  · rw [hfindingsAbove, hfindings]
    rfl
  · rw [hfindingsBehind, hfindings]
    rfl

end Spacing

end CodingStandard
