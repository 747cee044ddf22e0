import CodingStandard.Checker.Comments
import CodingStandard.Proofs.Offsets
import Mathlib.Data.List.Chain

namespace CodingStandard

/-!
# The first comment of a block

The rules for comments are those of the first comment of a block, the comment on a line below one
without any. The checker goes from line to line and remembers whether the next comment is the first
one of its block. A line that starts in a literal is passed over as a whole. No comment stands on
the line above such a line, so what is remembered there is always that a block may start.
-/

namespace Lexer

theorem inCode_of_split {lx : Lexer} {t : Text} (h : (split lx t).2.isSome) :
    (run lx (split lx t).1).mode.inCode := by
  induction t generalizing lx with
  | nil => simp [split] at h
  | cons c t ih =>
      rw [split] at h ⊢
      split_ifs at h ⊢ with hmark
      · exact (Bool.and_eq_true_iff.mp hmark).1
      · exact ih h

end Lexer

namespace Carry

theorem openAfter_of_inCode {mode : Mode} (h : mode.inCode) (raw : Text) :
    openAfter mode raw = none := by
  cases mode <;> simp_all [Mode.inCode, openAfter, Mode.openString?]

/-- A comment runs to the end of its line, so no literal is open there. -/
theorem string_next_of_comment {carry : Carry} {number : Nat} {raw : Text}
    (h : (carry.physicalLine number raw).comment ≠ none) :
    (carry.next number raw).1.string = none := by
  rw [(carry.next_lexer number raw).1]
  refine openAfter_of_inCode (Lexer.inCode_of_split ?_) raw
  rw [Option.isSome_iff_ne_none]
  rintro hnone
  exact h (by rw [physicalLine, hnone]; rfl)

end Carry

theorem isChain_physicalLines (carry : Carry) (number : Nat) (raws : List Text) :
    (physicalLines carry number raws).IsChain
      fun line next => next.inString → line.comment = none := by
  induction raws generalizing carry number with
  | nil => exact List.isChain_nil
  | cons raw raws ih =>
      cases raws with
      | nil => exact List.isChain_singleton _
      | cons next raws =>
          refine List.isChain_cons_cons.mpr ⟨fun hstring => ?_, ih _ _⟩
          by_contra hcomment
          have hnone := Carry.string_next_of_comment hcomment
          simp [Carry.physicalLine, hnone] at hstring

namespace Comments

/-! ## From line to line -/

/-- Whether a comment below a line would be the first one of its block. -/
def firstBelow (first : Bool) (line : PhysicalLine) : Bool :=
  if line.inString then first else line.comment.isNone

def ofLine (first : Bool) (line : PhysicalLine) : List Finding :=
  if line.inString then []
  else match line.comment with
    | none => []
    | some comment => if first then ofComment line.number comment else []

variable {first : Bool} {line : PhysicalLine} {lines front back : List PhysicalLine} {f : Finding}

theorem ofLine_of_comment_eq_none (h : line.comment = none) : ofLine first line = [] := by
  simp [ofLine, h]

theorem ofLine_of_isDirective {comment : Comment} (h : line.comment = some comment)
    (hdirective : Directive.isDirective comment.text) : ofLine first line = [] := by
  simp [ofLine, h, ofComment, hdirective]

theorem findingsFrom_cons :
    findingsFrom first (line :: lines) =
      ofLine first line ++ findingsFrom (firstBelow first line) lines := by
  rw [findingsFrom, ofLine, firstBelow]
  by_cases hstring : line.inString
  · simp [hstring]
  · cases line.comment <;> simp [hstring]

theorem findingsFrom_append :
    findingsFrom first (front ++ back) =
      findingsFrom first front ++ findingsFrom (front.foldl firstBelow first) back := by
  induction front generalizing first with
  | nil => rfl
  | cons line front ih =>
      rw [List.cons_append, findingsFrom_cons, ih, findingsFrom_cons, List.append_assoc,
        List.foldl_cons]

theorem mem_findingsFrom_iff :
    f ∈ findingsFrom first lines ↔ ∃ above line below, lines = above ++ line :: below ∧
      f ∈ ofLine (above.foldl firstBelow first) line := by
  constructor
  · intro h
    induction lines generalizing first with
    | nil => simp [findingsFrom] at h
    | cons line lines ih =>
        rw [findingsFrom_cons, List.mem_append] at h
        rcases h with h | h
        · exact ⟨[], line, lines, rfl, h⟩
        · obtain ⟨above, other, below, rfl, hf⟩ := ih h
          exact ⟨line :: above, other, below, rfl, hf⟩
  · rintro ⟨above, line, below, rfl, hf⟩
    rw [findingsFrom_append, findingsFrom_cons]
    exact List.mem_append_right _ (List.mem_append_left _ hf)

/-- What is remembered below some lines of a scan depends on the last of them only. -/
theorem foldl_firstBelow_iff
    (h : front.IsChain fun line next => next.inString → line.comment = none) :
    front.foldl firstBelow true = true ↔
      ∀ last, front.getLast? = some last → last.comment = none ∨ last.inString := by
  induction front using List.reverseRecOn with
  | nil => simp
  | append_singleton front last ih =>
      obtain ⟨hfront, -, hlast⟩ := List.isChain_append.mp h
      rw [List.foldl_append, List.foldl_cons, List.foldl_nil, firstBelow, List.getLast?_concat]
      by_cases hstring : last.inString
      · have habove : front.foldl firstBelow true = true :=
          (ih hfront).mpr fun line hline => .inl (hlast line hline last rfl hstring)
        simp [hstring, habove]
      · simp [hstring]

/-! ## The rules for one comment -/

/-- A comment starts with its mark, one space, and no second space. -/
def OneSpace (comment : Text) : Prop :=
  ∃ rest, comment = '#' :: ' ' :: rest ∧ rest.head? ≠ some ' '

/-- The first character of a comment behind its marks and white space is a small letter. -/
def SmallLetter (comment : Text) : Prop :=
  ∃ marks gap c rest, comment = marks ++ (gap ++ c :: rest) ∧ (∀ mark ∈ marks, mark = '#') ∧
    Text.isWhite gap ∧ (gap = [] → c ≠ '#') ∧ Text.isBlank c = false ∧ Text.isLower c

/-- A comment breaks the rule with a code. -/
inductive Violates (comment : Text) : (code : String) → Prop where
  | spacing (h : ¬ OneSpace comment) : Violates comment oneWhitespace.code
  | small (h : SmallLetter comment) : Violates comment capitalized.code

theorem hasOneSpace_iff {comment : Text} : hasOneSpace comment = true ↔ OneSpace comment := by
  have hone : "# ".toList = ['#', ' '] := by decide
  have htwo : "#  ".toList = ['#', ' ', ' '] := by decide
  rw [hasOneSpace, Bool.and_eq_true, Bool.not_eq_true', ← Bool.not_eq_true, Text.startsWith_iff,
    Text.startsWith_iff, hone, htwo]
  constructor
  · rintro ⟨⟨rest, rfl⟩, htwo⟩
    refine ⟨rest, rfl, fun hrest => htwo ?_⟩
    obtain ⟨tail, rfl⟩ := List.head?_eq_some_iff.mp hrest
    exact ⟨tail, rfl⟩
  · rintro ⟨rest, rfl, hrest⟩
    refine ⟨⟨rest, rfl⟩, ?_⟩
    rintro ⟨tail, htail⟩
    obtain rfl : ' ' :: tail = rest := by simpa using htail
    exact hrest rfl

theorem startsSmall_iff {comment : Text} : startsSmall comment = true ↔ SmallLetter comment := by
  rw [startsSmall, Text.trimStart, Option.any_eq_true]
  constructor
  · rintro ⟨c, hc, hsmall⟩
    obtain ⟨rest, hrest⟩ := List.head?_eq_some_iff.mp hc
    obtain ⟨hcomment, hmarks, hstop⟩ := (Text.span_eq_iff (p := (· == '#'))).mp ⟨rfl, rfl⟩
    obtain ⟨hbody, hgap, hletter⟩ := Text.span_eq_iff.mp ⟨rfl, hrest⟩
    refine ⟨_, _, c, rest, hbody ▸ hcomment, ?_, List.all_eq_true.mpr hgap, ?_, hletter c rfl,
      hsmall⟩
    · simpa using hmarks
    · intro hnone
      rw [hbody, hnone] at hstop
      simpa using hstop c rfl
  · rintro ⟨marks, gap, c, rest, rfl, hmarks, hgap, hfirst, hletter, hsmall⟩
    have hwhite := List.all_eq_true.mp hgap
    have hbody : (marks ++ (gap ++ c :: rest)).dropWhile (· == '#') = gap ++ c :: rest := by
      refine Text.dropWhile_append_eq (by simpa using hmarks) fun d hd => ?_
      cases gap with
      | nil =>
          obtain rfl := Option.some.inj hd
          simpa using hfirst rfl
      | cons blank gap =>
          obtain rfl := Option.some.inj hd
          have hblank := hwhite blank List.mem_cons_self
          rw [beq_eq_false_iff_ne]
          rintro rfl
          exact absurd hblank (by decide)
    have hrest : (gap ++ c :: rest).dropWhile Text.isBlank = c :: rest :=
      Text.dropWhile_append_eq hwhite (by simpa using hletter)
    exact ⟨c, by rw [hbody, hrest]; rfl, hsmall⟩

theorem mem_ofComment_iff {number : Nat} {comment : Comment} :
    f ∈ ofComment number comment ↔ Directive.isDirective comment.text = false ∧
      ∃ code, Violates comment.text code ∧ f = ⟨code, number, comment.column + 1⟩ := by
  have hspace : hasOneSpace comment.text ↔ OneSpace comment.text := hasOneSpace_iff
  have hsmall : startsSmall comment.text ↔ SmallLetter comment.text := startsSmall_iff
  unfold ofComment
  by_cases hdirective : Directive.isDirective comment.text
  · simp [hdirective]
  · simp only [hdirective, Bool.false_eq_true, if_false, true_and, List.mem_append]
    constructor
    · rintro (hf | hf)
      · split_ifs at hf with h
        · simp at hf
        · exact ⟨_, .spacing fun hone => h (hspace.mpr hone), List.mem_singleton.mp hf⟩
      · split_ifs at hf with h
        · exact ⟨_, .small (hsmall.mp h), List.mem_singleton.mp hf⟩
        · simp at hf
    · rintro ⟨_, hviolates | hviolates, rfl⟩
      · exact .inl (by simp [mt hspace.mp hviolates])
      · exact .inr (by simp [hsmall.mpr hviolates])

theorem of_mem_ofLine (h : f ∈ ofLine first line) :
    f.line = line.number ∧
      ∃ comment, line.comment = some comment ∧ Directive.isDirective comment.text = false := by
  unfold ofLine at h
  cases hcomment : line.comment with
  | none => simp [hcomment] at h
  | some comment =>
      have hmem : f ∈ ofComment line.number comment := by
        rw [hcomment] at h
        split_ifs at h <;> simp_all
      obtain ⟨hdirective, _, -, rfl⟩ := mem_ofComment_iff.mp hmem
      exact ⟨rfl, comment, rfl, hdirective⟩

theorem exists_of_mem_findingsFrom (h : f ∈ findingsFrom first lines) :
    ∃ line ∈ lines, f.line = line.number ∧
      ∃ comment, line.comment = some comment ∧ Directive.isDirective comment.text = false := by
  obtain ⟨above, line, below, rfl, hf⟩ := mem_findingsFrom_iff.mp h
  exact ⟨line, by simp, of_mem_ofLine hf⟩

/-! ## The comments that are examined -/

/-- The comment on the line below some others is taken for the first one of its block: its line
starts in code, and the line above carries no comment or starts in a literal. -/
structure Heads (above : List PhysicalLine) (line : PhysicalLine) (comment : Comment) : Prop where
  comment_eq : line.comment = some comment
  inCode : line.inString = false
  first : ∀ last, above.getLast? = some last → last.comment = none ∨ last.inString

theorem mem_ofLine_iff {above : List PhysicalLine}
    (h : above.IsChain fun line next => next.inString → line.comment = none) :
    f ∈ ofLine (above.foldl firstBelow true) line ↔
      ∃ comment, Heads above line comment ∧ f ∈ ofComment line.number comment := by
  have hfirst := foldl_firstBelow_iff h
  constructor
  · intro hf
    by_cases hstring : line.inString
    · simp [ofLine, hstring] at hf
    cases hcomment : line.comment with
    | none => simp [ofLine, hcomment] at hf
    | some comment =>
        by_cases habove : above.foldl firstBelow true
        · refine ⟨comment, ⟨hcomment, by simpa using hstring, hfirst.mp habove⟩, ?_⟩
          simpa [ofLine, hstring, hcomment, habove] using hf
        · simp [ofLine, hcomment, habove] at hf
  · rintro ⟨comment, ⟨hcomment, hcode, habove⟩, hf⟩
    simpa [ofLine, hcode, hcomment, hfirst.mpr habove] using hf

/-- The findings are those of the comments that are taken for the first one of their block,
directives apart. A comment behind the end of a literal that spans lines is not examined, and the
comment below it is taken for a first one. -/
theorem mem_findings_scan_iff (source : Text) (f : Finding) :
    f ∈ findings (scan source) ↔
      ∃ above line below comment, (scan source).physical = above ++ line :: below ∧
        Heads above line comment ∧ Directive.isDirective comment.text = false ∧
        ∃ code, Violates comment.text code ∧ f = ⟨code, line.number, comment.column + 1⟩ := by
  have hchain : (scan source).physical.IsChain
      fun line next => next.inString → line.comment = none := isChain_physicalLines ..
  have hline : ∀ {above line below}, (scan source).physical = above ++ line :: below →
      (f ∈ ofLine (above.foldl firstBelow true) line ↔
        ∃ comment, Heads above line comment ∧ f ∈ ofComment line.number comment) :=
    fun hsplit => mem_ofLine_iff (List.isChain_append.mp (hsplit ▸ hchain)).1
  rw [findings, mem_findingsFrom_iff]
  constructor
  · rintro ⟨above, line, below, hsplit, hf⟩
    obtain ⟨comment, hheads, hf⟩ := (hline hsplit).mp hf
    exact ⟨above, line, below, comment, hsplit, hheads, mem_ofComment_iff.mp hf⟩
  · rintro ⟨above, line, below, comment, hsplit, hheads, hf⟩
    exact ⟨above, line, below, hsplit,
      (hline hsplit).mpr ⟨comment, hheads, mem_ofComment_iff.mpr hf⟩⟩

/-- A comment without a space behind its mark, on the line that ends a literal. -/
def behindLiteral : Text := "x = '''\n'''  #No space\n".toList

/-- The comment opens a block and breaks a rule, but nothing is found. -/
theorem findings_behindLiteral :
    (scan behindLiteral).physical.map (·.comment) =
        [none, some ⟨5, "#No space".toList⟩] ∧
      Directive.isDirective "#No space".toList = false ∧ ¬ OneSpace "#No space".toList ∧
      findings (scan behindLiteral) = [] := by
  refine ⟨by decide, by decide, ?_, by decide⟩
  rintro ⟨rest, hrest, -⟩
  simp at hrest

end Comments

end CodingStandard
