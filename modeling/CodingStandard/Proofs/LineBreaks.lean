import CodingStandard.Proofs.Renumbering
import CodingStandard.Proofs.Trimming

namespace CodingStandard

/-!
# Breaking a line

A line can be broken at a space in its code, behind a backslash or, inside of brackets, without one.
A scan trims the two parts and joins them by a space again. What it hands to the line below is the
same as before, so the statements stay as they are, and only the numbers of their lines change.
-/

/-- A space between the two texts parts characters that are neither white nor backslashes, and no
comment starts behind it. -/
structure Seam (front back : Text) : Prop where
  last : ∃ a, front.getLast? = some a ∧ Text.isBlank a = false ∧ a ≠ '\\'
  head : ∃ b, back.head? = some b ∧ Text.isBlank b = false ∧ b ≠ '\\' ∧ b ≠ '#'

/-- What a line can end in where it is broken, by the number of open brackets. -/
def BreaksAt (depth : Nat) (mark : Text) : Prop := mark = ['\\'] ∨ mark = [] ∧ 0 < depth

/-! ## Segments -/

namespace Carry

variable {s t front : Text} {c : Char}

/-- What is left of the code of a line when its end has been tidied. -/
def tidyEnd (backslash : Bool) (t : Text) : Text :=
  if backslash then Text.trimEnd (Text.dropEndWhile (· == '\\') (Text.trimEnd t))
  else Text.trimEnd t

/-- What is left of the code of a line when its start has been tidied. -/
def tidyStart (continued : Bool) (t : Text) : Text := if continued then Text.trimStart t else t

theorem segment_eq (continued backslash : Bool) (code : Text) :
    segment continued backslash code = tidyEnd backslash (tidyStart continued code) := by
  cases continued <;> rfl

theorem tidyEnd_append_cons (hc : Text.isBlank c = false) (hbackslash : c ≠ '\\')
    (backslash : Bool) (s t : Text) :
    tidyEnd backslash (s ++ c :: t) = s ++ c :: tidyEnd backslash t := by
  have hdrop : (c == '\\') = false := by simpa using hbackslash
  unfold tidyEnd Text.trimEnd
  cases backslash with
  | false => exact Text.dropEndWhile_append_cons hc s t
  | true =>
      simp only [if_true]
      rw [Text.dropEndWhile_append_cons hc,
        Text.dropEndWhile_append_cons (p := (· == '\\')) hdrop, Text.dropEndWhile_append_cons hc]

theorem tidyStart_append (h : Text.isWhite s = false) (continued : Bool) (t : Text) :
    tidyStart continued (s ++ t) = tidyStart continued s ++ t := by
  cases continued with
  | false => rfl
  | true => exact Text.trimStart_append h t

theorem exists_tidyStart_concat (hc : Text.isBlank c = false) (continued : Bool) (s : Text) :
    ∃ s', tidyStart continued (s ++ [c]) = s' ++ [c] := by
  cases continued with
  | false => exact ⟨s, rfl⟩
  | true =>
      rw [tidyStart, if_pos rfl, Text.trimStart, List.dropWhile_append]
      split
      · exact ⟨[], by simp [hc]⟩
      · exact ⟨_, rfl⟩

/-! ## The two parts of a line -/

variable {carry : Carry} {back mark gap : Text} {number : Nat}

/-- The number of brackets that are open behind some code. -/
def depthAt (carry : Carry) (front : Text) : Nat := (carry.lexerAfter front).depth

theorem InCodeAt.append_mark (h : carry.InCodeAt front) {depth : Nat}
    (hmark : BreaksAt depth mark) :
    carry.InCodeAt (front ++ mark) ∧ carry.depthAt (front ++ mark) = carry.depthAt front := by
  rcases hmark with rfl | ⟨rfl, -⟩
  · obtain ⟨hsplit, hcode⟩ := inCodeAt_iff.mp h
    have hmarked : (carry.lineStart.run front).Marked := (Lexer.marked_start _ _).run front
    have hstep : (carry.lineStart.run front).step '\\' =
        ⟨.code, (carry.lineStart.run front).depth⟩ :=
      hmarked.step_plain hcode fun _ => rfl
    have hmark : carry.InCodeAt (front ++ ['\\']) := by
      rw [inCodeAt_iff, Lexer.split_append hsplit, Lexer.split_of_not_mem (by decide),
        Lexer.run_append, Lexer.run_cons, hstep]
      exact ⟨rfl, rfl⟩
    refine ⟨hmark, ?_⟩
    rw [depthAt, hmark.lexerAfter_eq, Lexer.run_append, Lexer.run_cons, hstep, depthAt,
      h.lexerAfter_eq]
    rfl
  · rw [List.append_nil]
    exact ⟨h, rfl⟩

/-- What stands behind a space in code is read as at the start of a line. -/
theorem InCodeAt.split_space (h : carry.InCodeAt front) (back : Text) :
    let cut := Lexer.split ⟨.code, carry.depthAt front⟩ back
    carry.codeOf (front ++ ' ' :: back) = front ++ ' ' :: cut.1 ∧
      carry.lexerAfter (front ++ ' ' :: back) = Lexer.run ⟨.code, carry.depthAt front⟩ cut.1 := by
  intro cut
  obtain ⟨hsplit, hcode⟩ := inCodeAt_iff.mp h
  have hmarked : (carry.lineStart.run front).Marked := (Lexer.marked_start _ _).run front
  have hstep : (carry.lineStart.run front).step ' ' = ⟨.code, carry.depthAt front⟩ := by
    rw [hmarked.step_plain hcode fun _ => rfl, depthAt, h.lexerAfter_eq]
  have hspace : Lexer.split (carry.lineStart.run front) (' ' :: back) = (' ' :: cut.1, cut.2) := by
    rw [Lexer.split, if_neg (by simp), hstep]
  have hcodeOf : carry.codeOf (front ++ ' ' :: back) = front ++ ' ' :: cut.1 := by
    rw [codeOf_eq_lineStart, Lexer.split_append hsplit, hspace]
  refine ⟨hcodeOf, ?_⟩
  rw [lexerAfter_eq_lineStart, hcodeOf, Lexer.run_append, Lexer.run_cons, hstep]

theorem split_gap (hstring : carry.string = none) (hgap : Text.isWhite gap) (back : Text) :
    let cut := Lexer.split ⟨.code, carry.depth⟩ back
    carry.codeOf (gap ++ back) = gap ++ cut.1 ∧
      carry.lexerAfter (gap ++ back) = Lexer.run ⟨.code, carry.depth⟩ cut.1 := by
  intro cut
  have hstart : carry.lineStart = ⟨.code, carry.depth⟩ := by
    rw [lineStart, hstring]
    rfl
  have hsplit : carry.lineStart.split gap = (gap, none) :=
    Lexer.split_of_not_mem (Lexer.not_mem_of_isWhite hgap) _
  have hcodeOf : carry.codeOf (gap ++ back) = gap ++ cut.1 := by
    rw [codeOf_eq_lineStart, Lexer.split_append hsplit, hstart, Lexer.run_of_isWhite hgap]
  refine ⟨hcodeOf, ?_⟩
  rw [lexerAfter_eq_lineStart, hcodeOf, hstart, Lexer.run_append, Lexer.run_of_isWhite hgap]

theorem not_gap_of_mem {raw : Text} (h : c ∈ carry.codeOf raw) (hc : Text.isBlank c = false) :
    ¬ ((carry.physicalLine number raw).isBlank ∨
      (carry.physicalLine number raw).isCommentOnly) := by
  intro hgap
  have hwhite := isWhite_of_gap hgap
  rw [Text.isWhite_eq_false_of_mem h hc] at hwhite
  cases hwhite

theorem endsInBackslash_mark {depth : Nat} (hmark : BreaksAt depth mark)
    (hlast : ∃ a, front.getLast? = some a ∧ Text.isBlank a = false ∧ a ≠ '\\') :
    endsInBackslash none (front ++ mark) = !mark.isEmpty := by
  obtain ⟨a, hlast, ha, hbackslash⟩ := hlast
  rcases hmark with rfl | ⟨rfl, -⟩
  · rw [endsInBackslash, Text.trimEnd_eq_self (by simp; decide)]
    simp
  · rw [List.append_nil, endsInBackslash, Text.trimEnd_eq_self (by simpa [hlast] using ha), hlast]
    simpa using hbackslash

theorem segment_mark {depth : Nat} (hmark : BreaksAt depth mark)
    (hlast : ∃ a, front.getLast? = some a ∧ Text.isBlank a = false ∧ a ≠ '\\')
    (continued : Bool) :
    segment continued (!mark.isEmpty) (front ++ mark) = tidyStart continued front := by
  obtain ⟨a, hlast, ha, hbackslash⟩ := hlast
  obtain ⟨s, rfl⟩ := List.getLast?_eq_some_iff.mp hlast
  have hwhite : Text.isWhite (s ++ [a]) = false := Text.isWhite_eq_false_of_mem (by simp) ha
  have hbehind : tidyEnd (!mark.isEmpty) mark = [] := by
    rcases hmark with rfl | ⟨rfl, -⟩ <;> rfl
  obtain ⟨s', hs'⟩ := exists_tidyStart_concat ha continued s
  rw [segment_eq, tidyStart_append hwhite, hs', ← List.append_cons,
    tidyEnd_append_cons ha hbackslash, hbehind]

theorem extend_append (hwhite : Text.isWhite front = false) (number : Nat) (rest t : Text) :
    carry.extend number (front ++ rest) (tidyStart carry.pending.isSome front ++ t) =
      { carry.extend number front (tidyStart carry.pending.isSome front) with
        text := (carry.extend number front (tidyStart carry.pending.isSome front)).text ++ t } := by
  rw [extend, extend]
  cases hpending : carry.pending with
  | some l => simp
  | none =>
      simp only [Option.isSome_none, tidyStart, Bool.false_eq_true, if_false]
      rw [Text.trimStart_append hwhite, indentWidth_append hwhite]

/-- What the first part of a broken line leaves behind: its statement is open. -/
def parted (carry : Carry) (number : Nat) (front : Text) : Carry where
  string := none
  depth := carry.depthAt front
  pending := some (carry.extend number front (tidyStart carry.pending.isSome front))
  run := if carry.pending.isSome then carry.run else 0
  longest := if carry.pending.isSome then carry.longest else 0

theorem next_front (h : carry.InCodeAt front) (hmark : BreaksAt (carry.depthAt front) mark)
    (hlast : ∃ a, front.getLast? = some a ∧ Text.isBlank a = false ∧ a ≠ '\\') (number : Nat) :
    carry.next number (front ++ mark) = (carry.parted number front, none) := by
  obtain ⟨hcode, hdepth⟩ := h.append_mark hmark
  have hstring : openAfter (carry.lexerAfter (front ++ mark)).mode (front ++ mark) = none :=
    openAfter_of_inCode hcode.inCode _
  have hbackslash := endsInBackslash_mark hmark hlast
  have hsegment := segment_mark hmark hlast carry.pending.isSome
  obtain ⟨a, hlast, ha, -⟩ := hlast
  have hmem : a ∈ front := List.mem_of_getLast? hlast
  have hwhite : Text.isWhite front = false := Text.isWhite_eq_false_of_mem hmem ha
  have hplain : ¬ ((carry.physicalLine number (front ++ mark)).isBlank ∨
      (carry.physicalLine number (front ++ mark)).isCommentOnly) := by
    refine not_gap_of_mem ?_ ha
    rw [hcode.codeOf_eq]
    exact List.mem_append_left _ hmem
  rw [depthAt] at hdepth
  -- A backslash or an open bracket keeps the statement open.
  have hopen : carry.completes (front ++ mark) = false := by
    rw [completes, hstring, hcode.codeOf_eq, hbackslash, hdepth]
    rcases hmark with rfl | ⟨rfl, hpos⟩
    · simp
    · simp [hpos.ne']
  have hextended : carry.extended number (front ++ mark) =
      carry.extend number front (tidyStart carry.pending.isSome front) := by
    have happend := carry.extend_append hwhite number mark []
    rw [List.append_nil, List.append_nil] at happend
    rw [extended, hstring, hcode.codeOf_eq, hbackslash, hsegment, happend]
  rw [next_eq_of_code hplain, hstring, hopen, hextended, hdepth]
  rfl

theorem openAfter_append (hback : back ≠ []) (mode : Mode) (s : Text) :
    openAfter mode (s ++ back) = openAfter mode back := by
  unfold openAfter
  rw [List.getLast?_append_of_ne_nil _ hback]

theorem endsInBackslash_append_cons (hc : Text.isBlank c = false) (string : Option OpenString)
    (s t : Text) : endsInBackslash string (s ++ c :: t) = endsInBackslash string (c :: t) := by
  have hcons := Text.dropEndWhile_append_cons hc [] t
  rw [List.nil_append, List.nil_append] at hcons
  rw [endsInBackslash, endsInBackslash, Text.trimEnd, Text.trimEnd,
    Text.dropEndWhile_append_cons hc, hcons, List.getLast?_append_of_ne_nil _ (by simp)]

theorem segment_whole (hwhite : Text.isWhite front = false) (hc : Text.isBlank c = false)
    (hbackslash : c ≠ '\\') (continued backslash : Bool) (t : Text) :
    segment continued backslash (front ++ ' ' :: c :: t) =
      tidyStart continued front ++ ' ' :: c :: tidyEnd backslash t := by
  have htidy := tidyEnd_append_cons hc hbackslash backslash (tidyStart continued front ++ [' ']) t
  rw [segment_eq, tidyStart_append hwhite]
  simpa using htidy

theorem segment_rest (hgap : Text.isWhite gap) (hc : Text.isBlank c = false)
    (hbackslash : c ≠ '\\') (backslash : Bool) (t : Text) :
    segment true backslash (gap ++ c :: t) = c :: tidyEnd backslash t := by
  have hstart : tidyStart true (gap ++ c :: t) = c :: t := by
    rw [tidyStart, if_pos rfl, Text.trimStart_append_of_isWhite hgap, Text.trimStart,
      List.dropWhile_cons_of_neg (by simp [hc])]
  rw [segment_eq, hstart, ← List.nil_append (c :: t), tidyEnd_append_cons hc hbackslash,
    List.nil_append]

/-- From a space on, a line is read like a line that starts there inside of a statement. -/
theorem InCodeAt.reads_parted (h : carry.InCodeAt front) (number : Nat) (hgap : Text.isWhite gap)
    (hhead : ∃ b, back.head? = some b ∧ Text.isBlank b = false ∧ b ≠ '\\' ∧ b ≠ '#') :
    (∃ b code, Text.isBlank b = false ∧ b ≠ '\\' ∧
      carry.codeOf (front ++ ' ' :: back) = front ++ ' ' :: b :: code ∧
      (carry.parted number front).codeOf (gap ++ back) = gap ++ b :: code) ∧
    (carry.parted number front).lexerAfter (gap ++ back) =
      carry.lexerAfter (front ++ ' ' :: back) := by
  obtain ⟨b, hb, hblank, hbackslash, hmark⟩ := hhead
  obtain ⟨t, rfl⟩ := List.head?_eq_some_iff.mp hb
  obtain ⟨hwhole, hlexer⟩ := h.split_space (b :: t)
  obtain ⟨hrest, hlexer'⟩ := (carry.parted number front).split_gap rfl hgap (b :: t)
  have hcut : ∃ code, (Lexer.split ⟨.code, carry.depthAt front⟩ (b :: t)).1 = b :: code := by
    rw [Lexer.split, if_neg (by simp [hmark])]
    exact ⟨_, rfl⟩
  obtain ⟨code, hcut⟩ := hcut
  refine ⟨⟨b, code, hblank, hbackslash, ?_, ?_⟩, hlexer'.trans hlexer.symm⟩
  · rw [hwhole, hcut]
  · rw [hrest]
    exact congrArg (gap ++ ·) hcut

section Parted

variable {first last : Nat → Nat} {string : Option OpenString} {code : Text}

theorem endsInBackslash_parted (hc : Text.isBlank c = false) :
    endsInBackslash string (gap ++ c :: code) =
      endsInBackslash string (front ++ ' ' :: c :: code) := by
  rw [List.append_cons front, endsInBackslash_append_cons hc, endsInBackslash_append_cons hc]

theorem extend_parted (hwhite : Text.isWhite front = false) (hgap : Text.isWhite gap)
    (hc : Text.isBlank c = false) (hbackslash : c ≠ '\\') (hfirst : ∀ n ≤ number, first n = n)
    (hlast : last number = number + 1) (hpending : ∀ l, carry.pending = some l → l.start ≤ number)
    (backslash : Bool) :
    (carry.parted number front).extend (number + 1) (gap ++ back)
        (segment true backslash (gap ++ c :: code)) =
      (carry.extend number (front ++ ' ' :: back) (segment carry.pending.isSome backslash
        (front ++ ' ' :: c :: code))).renumber first last := by
  have hstart :
      (carry.extend number front (tidyStart carry.pending.isSome front)).start ≤ number := by
    cases hcarry : carry.pending with
    | some l => simpa [extend, hcarry] using hpending l hcarry
    | none => simp [extend, hcarry]
  rw [segment_whole hwhite hc hbackslash, segment_rest hgap hc hbackslash,
    carry.extend_append hwhite]
  simp only [LogicalLine.renumber, hfirst _ hstart, stop_extend, hlast]
  rfl

end Parted

/-- The second part of a broken line leaves behind what the whole line does. -/
theorem next_parted (h : carry.InCodeAt front) (hseam : Seam front back) (hgap : Text.isWhite gap)
    {first last : Nat → Nat} (hfirst : ∀ n ≤ number, first n = n) (hlast : last number = number + 1)
    (hpending : ∀ l, carry.pending = some l → l.start ≤ number) :
    (carry.parted number front).next (number + 1) (gap ++ back) =
      ((carry.next number (front ++ ' ' :: back)).1.renumber first last,
        (carry.next number (front ++ ' ' :: back)).2.map (·.renumber first last)) := by
  obtain ⟨a, ha, hablank, -⟩ := hseam.last
  have hwhite : Text.isWhite front = false :=
    Text.isWhite_eq_false_of_mem (List.mem_of_getLast? ha) hablank
  have hback : back ≠ [] := by
    obtain ⟨b, hb, -⟩ := hseam.head
    rintro rfl
    cases hb
  obtain ⟨⟨b, code, hblank, hbackslash, hwhole, hrest⟩, hlexer⟩ :=
    h.reads_parted number hgap hseam.head
  -- Both lines hold the character behind the space, so neither is blank or only a comment.
  have hplain : ¬ ((carry.physicalLine number (front ++ ' ' :: back)).isBlank ∨
      (carry.physicalLine number (front ++ ' ' :: back)).isCommentOnly) :=
    not_gap_of_mem (c := b) (by simp [hwhole]) hblank
  have hplain' : ¬ (((carry.parted number front).physicalLine (number + 1) (gap ++ back)).isBlank ∨
      ((carry.parted number front).physicalLine (number + 1) (gap ++ back)).isCommentOnly) :=
    not_gap_of_mem (c := b) (by simp [hrest]) hblank
  have hstring : openAfter ((carry.parted number front).lexerAfter (gap ++ back)).mode
      (gap ++ back) =
      openAfter (carry.lexerAfter (front ++ ' ' :: back)).mode (front ++ ' ' :: back) := by
    rw [hlexer, List.append_cons, openAfter_append hback, openAfter_append hback]
  have hcompletes : (carry.parted number front).completes (gap ++ back) =
      carry.completes (front ++ ' ' :: back) := by
    rw [completes, completes, hstring, hlexer, hrest, hwhole, endsInBackslash_parted hblank]
  have hextended : (carry.parted number front).extended (number + 1) (gap ++ back) =
      (carry.extended number (front ++ ' ' :: back)).renumber first last := by
    rw [extended, extended, hstring, hrest, hwhole, endsInBackslash_parted hblank]
    exact extend_parted hwhite hgap hblank hbackslash hfirst hlast hpending _
  rw [next_eq_of_code hplain, next_eq_of_code hplain', hstring, hlexer, hcompletes, hextended]
  cases carry.completes (front ++ ' ' :: back) <;> rfl

end Carry

/-! ## Lines of two texts in a row -/

namespace Text

variable {s t front p : Text} {ps rest : List Text} {c : Char}

theorem flatten_pieces (t : Text) : (pieces t).flatten = t := by
  induction t with
  | nil => rfl
  | cons c t ih =>
      rw [pieces]
      split_ifs
      · rw [List.flatten_cons, ih]
        rfl
      · revert ih
        cases pieces t with
        | nil =>
            rintro rfl
            rfl
        | cons piece rest =>
            rintro rfl
            rfl

theorem IsCut.append (h : IsCut (ps ++ [front])) (hfront : '\n' ∉ front)
    (h' : IsCut (p :: rest)) : IsCut (ps ++ (front ++ p) :: rest) := by
  induction ps with
  | nil =>
      cases h' with
      | last hline hne => exact .last (by simp [hfront, hline]) (by simp [hne])
      | line hline hrest =>
          rw [List.nil_append, ← List.append_assoc]
          exact .line (by simp [hfront, hline]) hrest
  | cons q ps ih =>
      generalize hps : ps ++ [front] = qs at h ih
      rw [List.cons_append, hps] at h
      cases h with
      | last => simp at hps
      | line hline hrest => exact .line hline (ih hrest)

/-- A text that does not end in a newline and the text behind it share a line. -/
theorem pieces_append (hs : pieces s = ps ++ [front]) (hfront : '\n' ∉ front)
    (ht : pieces t = p :: rest) : pieces (s ++ t) = ps ++ (front ++ p) :: rest := by
  have hcut := IsCut.append (hs ▸ isCut_pieces s) hfront (ht ▸ isCut_pieces t)
  have hflatten : s ++ t = (ps ++ (front ++ p) :: rest).flatten := by
    conv_lhs => rw [← flatten_pieces s, ← flatten_pieces t, hs, ht]
    simp
  rw [hflatten, hcut.pieces_flatten]

theorem pieces_append_of_not_mem (hs : '\n' ∉ s) (ht : pieces t = p :: rest) :
    pieces (s ++ t) = (s ++ p) :: rest := by
  by_cases hnil : s = []
  · rw [hnil, List.nil_append, ht, List.nil_append]
  · have hpiece : pieces s = [] ++ [s] := by
      rw [pieces_of_not_mem hs, if_neg hnil, List.nil_append]
    exact pieces_append hpiece hs ht

theorem exists_pieces_cons (hc : c ≠ '\n') (t : Text) :
    ∃ p rest, pieces (c :: t) = (c :: p) :: rest := by
  rw [pieces, if_neg hc]
  split
  · exact ⟨[], [], rfl⟩
  · exact ⟨_, _, rfl⟩

theorem IsCut.of_getLast? (h : IsCut (ps ++ [front])) (hc : c ≠ '\n')
    (hlast : (ps ++ [front]).flatten.getLast? = some c) :
    '\n' ∉ front ∧ front.getLast? = some c := by
  induction ps with
  | nil =>
      rw [List.nil_append, List.flatten_singleton] at hlast
      cases h with
      | last hline => exact ⟨hline, hlast⟩
      | line =>
          rw [List.getLast?_concat] at hlast
          exact absurd (Option.some.inj hlast).symm hc
  | cons q ps ih =>
      generalize hps : ps ++ [front] = qs at h ih hlast
      rw [List.cons_append, hps] at h hlast
      cases h with
      | last => simp at hps
      | line hline hrest =>
          rw [List.flatten_cons, List.getLast?_append, List.getLast?_concat,
            Option.or_eq_some_iff] at hlast
          rcases hlast with hlast | ⟨-, hnewline⟩
          · exact ih hrest hlast
          · exact absurd (Option.some.inj hnewline).symm hc

theorem of_lines_concat {above : List Text} (h : lines s = above ++ [front]) (hc : c ≠ '\n')
    (hlast : s.getLast? = some c) :
    ∃ ps, pieces s = ps ++ [front] ∧ ps.map dropTerminator = above ∧ '\n' ∉ front ∧
      front.getLast? = some c := by
  obtain ⟨ps, qs, hpieces, habove, hqs⟩ := List.map_eq_append_iff.mp h
  obtain ⟨q, rfl, hq⟩ := List.map_eq_singleton_iff.mp hqs
  have hcut : IsCut (ps ++ [q]) := hpieces ▸ isCut_pieces s
  obtain ⟨hnewline, hend⟩ := hcut.of_getLast? hc (by rw [← hpieces, flatten_pieces, hlast])
  rw [dropTerminator_of_not_mem hnewline] at hq
  subst hq
  exact ⟨ps, hpieces, habove, hnewline, hend⟩

theorem before?_concat (mark : Char) (t : Text) (c : Char) :
    before? [mark] (t ++ [c]) = if mark = c then some t else none := by
  by_cases hc : mark = c <;> simp [before?, after?, hc]

theorem dropTerminator_concat (t : Text) (c : Char) :
    dropTerminator (t ++ [c]) =
      if c = '\n' then (before? ['\r'] t).getD t else t ++ [c] := by
  by_cases hc : c = '\n'
  · rw [dropTerminator, before?_concat, if_pos hc.symm, if_pos hc]
  · rw [dropTerminator, before?_concat, if_neg (Ne.symm hc), if_neg hc]

/-- The terminator of a line lies behind the first character that is not white. -/
theorem dropTerminator_append (hp : ∃ b, p.head? = some b ∧ isBlank b = false) (s : Text) :
    dropTerminator (s ++ p) = s ++ dropTerminator p := by
  obtain ⟨b, hb, hblank⟩ := hp
  rcases p.eq_nil_or_concat' with rfl | ⟨t, c, rfl⟩
  · cases hb
  rw [← List.append_assoc, dropTerminator_concat, dropTerminator_concat]
  by_cases hc : c = '\n'
  · rw [if_pos hc, if_pos hc]
    rcases t.eq_nil_or_concat' with rfl | ⟨t, d, rfl⟩
    · obtain rfl : c = b := by simpa using hb
      rw [hc] at hblank
      exact absurd hblank (by decide)
    · rw [← List.append_assoc, before?_concat, before?_concat]
      split <;> simp
  · rw [if_neg hc, if_neg hc, List.append_assoc]

theorem head?_dropTerminator (hp : ∃ b, p.head? = some b ∧ isBlank b = false) :
    (dropTerminator p).head? = p.head? := by
  obtain ⟨b, hb, hblank⟩ := hp
  obtain ⟨terminator, hterminator, heq⟩ := exists_terminator p
  cases hline : dropTerminator p with
  | nil =>
      rw [hline, List.nil_append] at heq
      have hwhite : [[], ['\n'], ['\r', '\n']].all fun t : Text => t.all isBlank := by decide
      have hall := List.all_eq_true.mp (List.all_eq_true.mp hwhite _ hterminator) b
        (heq ▸ List.mem_of_mem_head? hb)
      rw [hblank] at hall
      cases hall
  | cons c line =>
      rw [hline] at heq
      rw [heq]
      rfl

theorem lines_append {above : List Text} (hs : lines s = above ++ [front]) (hc : c ≠ '\n')
    (hlast : s.getLast? = some c) (ht : pieces t = p :: rest) :
    lines (s ++ t) = above ++ dropTerminator (front ++ p) :: rest.map dropTerminator := by
  obtain ⟨ps, hpieces, rfl, hfront, -⟩ := of_lines_concat hs hc hlast
  rw [lines, pieces_append hpieces hfront ht, List.map_append, List.map_cons]

end Text

/-! ## Breaking a line of a source -/

/-- Behind a text the reader stands in code, outside of comments and literals, with a number of
brackets open. -/
def EndsInCode (t : Text) (depth : Nat) : Prop :=
  ∃ above front, Text.lines t = above ++ [front] ∧ (Carry.behind above).InCodeAt front ∧
    (Carry.behind above).depthAt front = depth

section

variable {source broken before after front back mark gap : Text} {above below : List Text}

theorem logical_scan_of_broken
    (hsource : Text.lines source = above ++ (front ++ ' ' :: back) :: below)
    (hbroken : Text.lines broken = above ++ (front ++ mark) :: (gap ++ back) :: below)
    (hcode : (Carry.behind above).InCodeAt front) (hseam : Seam front back)
    (hmark : BreaksAt ((Carry.behind above).depthAt front) mark) (hgap : Text.isWhite gap) :
    (scan broken).logical = (scan source).logical.map
      (·.renumber (shiftBelow (above.length + 1)) (shiftBelow above.length)) := by
  have hfirst : ∀ n ≤ above.length + 1, shiftBelow (above.length + 1) n = n :=
    fun n => shiftBelow_of_le
  have hlast : shiftBelow above.length (above.length + 1) = above.length + 1 + 1 :=
    shiftBelow_of_lt (Nat.lt_succ_self _)
  have hpending : ∀ l, (Carry.behind above).pending = some l → l.start ≤ above.length + 1 :=
    fun l hl => Nat.le_succ_of_le (Carry.start_le_of_pending_behind hl)
  refine logical_scan_renumber hsource hbroken (fun n hn => hfirst n (Nat.le_succ_of_le hn))
    (fun n => shiftBelow_of_le) ?_
  rw [logicalLines_cons, logicalLines_cons, Carry.next_front hcode hmark hseam.last,
    Carry.next_parted hcode hseam hgap hfirst hlast hpending, logicalLines_cons,
    logicalLines_renumber, List.map_append, Option.toList_map]
  · rfl
  · exact fun n hn => shiftBelow_of_lt hn
  · exact fun n hn => shiftBelow_of_lt (by omega)

theorem lines_of_seam (hbefore : Text.lines before = above ++ [front]) (hseam : Seam before after)
    {depth : Nat} (hmark : BreaksAt depth mark) (hgap : '\n' ∉ gap) :
    ∃ back below, Seam front back ∧
      Text.lines (before ++ ' ' :: after) = above ++ (front ++ ' ' :: back) :: below ∧
      Text.lines (before ++ (mark ++ '\n' :: (gap ++ after))) =
        above ++ (front ++ mark) :: (gap ++ back) :: below := by
  obtain ⟨⟨a, ha, hablank, habackslash⟩, ⟨b, hb, hblank, hbackslash, hnomark⟩⟩ := hseam
  have hanewline : a ≠ '\n' := Text.ne_of_isBlank hablank (by decide)
  obtain ⟨-, -, -, -, hfront⟩ := Text.of_lines_concat hbefore hanewline ha
  obtain ⟨t, rfl⟩ := List.head?_eq_some_iff.mp hb
  have hbnewline : b ≠ '\n' := Text.ne_of_isBlank hblank (by decide)
  obtain ⟨p, rest, hpieces⟩ := Text.exists_pieces_cons hbnewline t
  have hp : ∃ c, (b :: p).head? = some c ∧ Text.isBlank c = false := ⟨b, rfl, hblank⟩
  refine ⟨Text.dropTerminator (b :: p), rest.map Text.dropTerminator, ⟨?_, ?_⟩, ?_, ?_⟩
  · exact ⟨a, hfront, hablank, habackslash⟩
  · exact ⟨b, Text.head?_dropTerminator hp, hblank, hbackslash, hnomark⟩
  · have hspace : Text.pieces (' ' :: b :: t) = (' ' :: b :: p) :: rest :=
      Text.pieces_append_of_not_mem (s := [' ']) (by decide) hpieces
    rw [Text.lines_append hbefore hanewline ha hspace, List.append_cons front,
      Text.dropTerminator_append hp, ← List.append_cons]
  · have hmarkline : '\n' ∉ mark := by rcases hmark with rfl | ⟨rfl, -⟩ <;> decide
    -- A carriage return at the end would be dropped together with the newline.
    have hend : (front ++ mark).getLast? ≠ some '\r' := by
      rcases hmark with rfl | ⟨rfl, -⟩
      · simp
      · rw [List.append_nil, hfront]
        exact fun heq => Text.ne_of_isBlank hablank (by decide) (Option.some.inj heq)
    have hrest : Text.pieces (gap ++ b :: t) = (gap ++ b :: p) :: rest :=
      Text.pieces_append_of_not_mem hgap hpieces
    have hbroken := Text.pieces_append_newline hmarkline (gap ++ b :: t)
    rw [hrest] at hbroken
    rw [Text.lines_append hbefore hanewline ha hbroken, ← List.append_assoc front,
      Text.dropTerminator_concat, if_pos rfl, Text.before?_eq_none hend, List.map_cons,
      Text.dropTerminator_append hp]
    rfl

namespace Spacing

/-- A line break in place of a space changes no statement and no finding about blank lines, the
numbers of the lines from there on apart. -/
theorem statements_break {depth : Nat} (hcode : EndsInCode before depth) (hseam : Seam before after)
    (hmark : BreaksAt depth mark) (hgap : ∀ c ∈ gap, c = ' ' ∨ c = '\t') :
    let line := (Text.lines before).length
    let source := before ++ ' ' :: after
    let broken := before ++ (mark ++ '\n' :: (gap ++ after))
    (scan broken).logical =
        (scan source).logical.map (·.renumber (shiftBelow line) (shiftBelow (line - 1))) ∧
      ∀ maxBlankLines, blankLineFindings maxBlankLines (scan broken).logical =
        (blankLineFindings maxBlankLines (scan source).logical).map
          (·.renumber (shiftBelow line)) := by
  intro line source broken
  obtain ⟨above, front, hbefore, hfront, rfl⟩ := hcode
  have hwhite : Text.isWhite gap := by
    refine List.all_eq_true.mpr fun c hc => ?_
    rcases hgap c hc with rfl | rfl <;> decide
  have hnewline : '\n' ∉ gap := fun hmem => by
    rcases hgap _ hmem with h | h <;> exact absurd h (by decide)
  obtain ⟨back, below, hparts, hsource, hbroken⟩ := lines_of_seam hbefore hseam hmark hnewline
  have hline : line = above.length + 1 := by simp [line, hbefore]
  have hlogical := logical_scan_of_broken hsource hbroken hfront hparts hmark hwhite
  rw [hline, Nat.add_sub_cancel]
  exact ⟨hlogical, fun maxBlankLines => by rw [hlogical, blankLineFindings_renumber]⟩

/-- The first item of a tuple. -/
def tupleStart : Text := "x = (1,".toList

/-- The second item of the tuple, and a function too close to it. -/
def tupleEnd : Text := "2)\n\ndef f():\n    pass\n".toList

theorem statements_break_tuple :
    let findings (source : Text) := blankLineFindings 1 (scan source).logical
    EndsInCode tupleStart 1 ∧ Seam tupleStart tupleEnd ∧ BreaksAt 1 ['\\'] ∧ BreaksAt 1 [] ∧
      findings (tupleStart ++ ' ' :: tupleEnd) = [⟨expectedThree.code, 3, 1, some "1"⟩] ∧
      findings (tupleStart ++ (['\\'] ++ '\n' :: ([' ', '\t'] ++ tupleEnd))) =
        [⟨expectedThree.code, 4, 1, some "1"⟩] ∧
      findings (tupleStart ++ ([] ++ '\n' :: ([' ', '\t'] ++ tupleEnd))) =
        [⟨expectedThree.code, 4, 1, some "1"⟩] := by
  intro findings
  have hcode : EndsInCode tupleStart 1 :=
    ⟨[], tupleStart, by decide, ⟨by decide, by decide⟩, by decide⟩
  have hseam : Seam tupleStart tupleEnd :=
    ⟨⟨',', by decide, by decide, by decide⟩, ⟨'2', by decide, by decide, by decide, by decide⟩⟩
  have hjoined : BreaksAt 1 ['\\'] := .inl rfl
  have hbracketed : BreaksAt 1 [] := .inr ⟨rfl, Nat.one_pos⟩
  have hgap : ∀ c ∈ [' ', '\t'], c = ' ' ∨ c = '\t' := by simp
  have hfindings :
      findings (tupleStart ++ ' ' :: tupleEnd) = [⟨expectedThree.code, 3, 1, some "1"⟩] := by
    decide
  have hbroken (mark : Text) (hmark : BreaksAt 1 mark) :
      findings (tupleStart ++ (mark ++ '\n' :: ([' ', '\t'] ++ tupleEnd))) =
        [⟨expectedThree.code, 4, 1, some "1"⟩] := by
    obtain ⟨-, hmoved⟩ := statements_break hcode hseam hmark hgap
    refine (hmoved 1).trans ((congrArg _ hfindings).trans ?_)
    rfl
  exact ⟨hcode, hseam, hjoined, hbracketed, hfindings, hbroken _ hjoined, hbroken _ hbracketed⟩

end Spacing

end

end CodingStandard
