import CodingStandard.Proofs.CommentBlocks
import CodingStandard.Proofs.DottedName
import CodingStandard.Proofs.Filtering

namespace CodingStandard

/-!
# Writing a directive

A directive is written at the end of a line: names joined by commas, and perhaps a reason in
quotation marks. Where the line stands in code before it, a scan finds the directive as it was
written, and it silences the messages that it names on its own line and on the next one.

A directive is a comment, so a comment on the line below it is not the first one of its block.
-/

namespace Text

variable {t : Text}

theorem trimStart_eq_self (h : ∀ c, t.head? = some c → isBlank c = false) : trimStart t = t :=
  (span_eq_iff.mpr ⟨(List.nil_append t).symm, List.forall_mem_nil _, h⟩).2

theorem trimEnd_eq_self (h : ∀ c, t.getLast? = some c → isBlank c = false) : trimEnd t = t := by
  have hreverse : t.reverse.dropWhile isBlank = t.reverse :=
    trimStart_eq_self (by simpa using h)
  rw [trimEnd, dropEndWhile, hreverse, List.reverse_reverse]

theorem trim_eq_self (hstart : ∀ c, t.head? = some c → isBlank c = false)
    (hend : ∀ c, t.getLast? = some c → isBlank c = false) : trim t = t := by
  rw [trim, trimStart_eq_self hstart, trimEnd_eq_self hend]

theorem trim_space_cons (hstart : ∀ c, t.head? = some c → isBlank c = false)
    (hend : ∀ c, t.getLast? = some c → isBlank c = false) : trim (' ' :: t) = t := by
  have hspace : isBlank ' ' = true := by decide
  have htrim : trim (' ' :: t) = trim t := by
    rw [trim, trim, trimStart, trimStart, List.dropWhile_cons_of_pos hspace]
  rw [htrim, trim_eq_self hstart hend]

theorem trim_space_append {tail : Text} (lead : Text)
    (hstart : ∀ c, lead.head? = some c → isBlank c = false) (hlead : lead ≠ []) (htail : tail ≠ [])
    (hend : ∀ c, tail.getLast? = some c → isBlank c = false) :
    trim (' ' :: (lead ++ tail)) = lead ++ tail := by
  apply trim_space_cons
  · rwa [List.head?_append_of_ne_nil _ hlead]
  · rwa [List.getLast?_append_of_ne_nil _ htail]

end Text

namespace Directive

/-! ## Reading what was written -/

/-- A name that a directive can list. -/
structure IsName (name : Text) : Prop where
  ne_nil : name ≠ []
  not_blank : ∀ c ∈ name, Text.isBlank c = false
  comma_not_mem : ',' ∉ name

/-- The start of a directive, up to its names. -/
def opening : Text := "# twistlint: disable=".toList

/-- A reason as it stands behind the names. -/
def writtenReason : Option Text → Text
  | none => []
  | some reason => ' ' :: ("reason=\"".toList ++ (reason ++ ['"']))

/-- A directive in the text of a comment. -/
def written (names : List Text) (reason : Option Text) : Text :=
  opening ++ Text.join [','] names ++ writtenReason reason

variable {names : List Text} {reason : Option Text}

theorem opening_eq : opening = '#' :: ' ' :: (marker ++ ' ' :: ("disable".toList ++ ['='])) := by
  decide

theorem head?_opening_append (rest : Text) : (opening ++ rest).head? = some '#' := by
  rw [opening_eq]
  rfl

theorem head?_written : (written names reason).head? = some '#' := by
  rw [written, List.append_assoc]
  exact head?_opening_append _

theorem isBlank_head_marker (rest : Text) :
    ∀ c, (marker ++ rest).head? = some c → Text.isBlank c = false := by
  have hmarker : marker = 't' :: "wistlint:".toList := by decide
  intro c hc
  obtain rfl : 't' = c := by simpa [hmarker] using hc
  decide

theorem isDirective_opening_append (rest : Text) : isDirective (opening ++ rest) = true := by
  have hbody : (opening ++ rest).dropWhile (· == '#') =
      ' ' :: (marker ++ (' ' :: ("disable".toList ++ ['=']) ++ rest)) := by
    rw [opening_eq, ← List.append_assoc]
    rfl
  rw [isDirective, hbody, Text.trimStart, List.dropWhile_cons_of_pos (by decide), ← Text.trimStart,
    Text.trimStart_eq_self (isBlank_head_marker _), Text.startsWith_iff]
  exact List.prefix_append ..

theorem isBlank_of_mem_join (h : ∀ name ∈ names, IsName name) :
    ∀ c ∈ Text.join [','] names, Text.isBlank c = false := by
  induction names with
  | nil => simp [Text.join]
  | cons name names ih =>
      have hname := (h name List.mem_cons_self).not_blank
      have hrest := ih fun other hother => h other (List.mem_cons_of_mem _ hother)
      cases names with
      | nil => simpa [Text.join] using hname
      | cons next names =>
          rw [Text.join, List.intercalate_cons_cons]
          simp only [List.mem_append, List.mem_singleton]
          rintro c ((hc | rfl) | hc)
          · exact hname c hc
          · decide
          · exact hrest c hc

theorem join_ne_nil (hne : names ≠ []) (h : ∀ name ∈ names, IsName name) :
    Text.join [','] names ≠ [] := by
  cases names with
  | nil => contradiction
  | cons name names =>
      have hname := (h name List.mem_cons_self).ne_nil
      cases names <;> simp [Text.join, List.intercalate_cons_cons, hname]

theorem parseNames_join (hne : names ≠ []) (h : ∀ name ∈ names, IsName name) :
    parseNames (Text.join [','] names) = names := by
  have hsplit : Text.splitOn ',' (Text.join [','] names) = names := by
    rw [Text.splitOn_eq, Text.join,
      List.splitOn_intercalate ',' (fun name hname => (h name hname).comma_not_mem) hne]
  have htrim : names.map Text.trim = names := by
    refine (List.map_congr_left fun name hname => ?_).trans (List.map_id names)
    have hblank := (h name hname).not_blank
    exact Text.trim_eq_self (fun c hc => hblank c (List.mem_of_mem_head? hc))
      fun c hc => hblank c (List.mem_of_getLast? hc)
  have hfilter : names.filter (!·.isEmpty) = names :=
    List.filter_eq_self.mpr fun name hname => by simpa using (h name hname).ne_nil
  rw [parseNames, hsplit, htrim, hfilter]

theorem parseReason?_writtenReason (h : ∀ r, reason = some r → '"' ∉ r) :
    parseReason? (Text.trim (writtenReason reason)) = reason := by
  cases reason with
  | none => decide
  | some r =>
      have htrim : Text.trim (writtenReason (some r)) = "reason=\"".toList ++ (r ++ ['"']) := by
        refine Text.trim_space_cons (fun c hc => ?_) fun c hc => ?_
        · obtain rfl : 'r' = c := by simpa using hc
          decide
        · rw [← List.append_assoc, List.getLast?_concat] at hc
          obtain rfl := Option.some.inj hc
          decide
      have hbody : (r ++ ['"']).takeWhile (· != '"') = r ∧
          (r ++ ['"']).dropWhile (· != '"') = ['"'] := by
        refine Text.span_eq_iff.mpr ⟨rfl, fun c hc => ?_, by simp⟩
        rw [bne_iff_ne]
        rintro rfl
        exact h r rfl hc
      rw [parseReason?, htrim, Text.after?_eq_some_iff.mpr rfl]
      simp [hbody.1]

theorem list_ne_nil (hne : names ≠ []) (h : ∀ name ∈ names, IsName name) :
    Text.join [','] names ++ writtenReason reason ≠ [] :=
  List.append_ne_nil_of_left_ne_nil (join_ne_nil hne h) _

theorem isBlank_getLast_list (h : ∀ name ∈ names, IsName name) :
    ∀ c, (Text.join [','] names ++ writtenReason reason).getLast? = some c →
      Text.isBlank c = false := by
  intro c hc
  cases reason with
  | none =>
      rw [writtenReason, List.append_nil] at hc
      exact isBlank_of_mem_join h c (List.mem_of_getLast? hc)
  | some r =>
      rw [writtenReason, ← List.append_assoc, ← List.cons_append, ← List.append_assoc,
        List.getLast?_concat] at hc
      obtain rfl := Option.some.inj hc
      decide

theorem trimStart_list (hne : names ≠ []) (h : ∀ name ∈ names, IsName name) :
    Text.trimStart (Text.join [','] names ++ writtenReason reason) =
      Text.join [','] names ++ writtenReason reason := by
  apply Text.trimStart_eq_self
  intro c hc
  rw [List.head?_append_of_ne_nil _ (join_ne_nil hne h)] at hc
  exact isBlank_of_mem_join h c (List.mem_of_mem_head? hc)

theorem span_list (h : ∀ name ∈ names, IsName name) :
    (Text.join [','] names ++ writtenReason reason).takeWhile (!Text.isBlank ·) =
        Text.join [','] names ∧
      (Text.join [','] names ++ writtenReason reason).dropWhile (!Text.isBlank ·) =
        writtenReason reason := by
  refine Text.span_eq_iff.mpr ⟨rfl, by simpa using isBlank_of_mem_join h, fun c hc => ?_⟩
  cases reason with
  | none => simp [writtenReason] at hc
  | some r =>
      obtain rfl := Option.some.inj hc
      decide

theorem isDirective_written : isDirective (written names reason) = true := by
  rw [written, List.append_assoc]
  exact isDirective_opening_append _

/-- A directive is read as it was written. -/
theorem parse?_written (hne : names ≠ []) (hnames : ∀ name ∈ names, IsName name)
    (hreason : ∀ r, reason = some r → '"' ∉ r) :
    parse? (written names reason) = some ⟨names, reason⟩ := by
  let list := Text.join [','] names ++ writtenReason reason
  let argument := '=' :: list
  let command := ' ' :: ("disable".toList ++ argument)
  have hlist : list ≠ [] := list_ne_nil hne hnames
  have hend : ∀ c, list.getLast? = some c → Text.isBlank c = false := isBlank_getLast_list hnames
  have hcomment : written names reason = '#' :: ' ' :: (marker ++ command) := by
    simp [written, opening_eq, command, argument, list]
  have hbody : Text.trim (' ' :: (marker ++ command)) = marker ++ command := by
    have htrim := Text.trim_space_append (marker ++ ' ' :: ("disable".toList ++ ['=']))
      (isBlank_head_marker _) (by simp) hlist hend
    simpa [command, argument] using htrim
  have hcommand : Text.trim command = "disable".toList ++ argument := by
    have htrim := Text.trim_space_append ("disable".toList ++ ['=']) (by simp; decide) (by simp)
      hlist hend
    simpa [command, argument] using htrim
  have hargument : Text.trimStart argument = argument := by
    apply Text.trimStart_eq_self
    intro c hc
    obtain rfl := Option.some.inj hc
    decide
  rw [parse?, hcomment, Text.after?_eq_some_iff.mpr (List.singleton_append).symm]
  simp only [Option.bind_eq_bind, Option.bind_some, hbody]
  rw [Text.after?_eq_some_iff.mpr rfl]
  simp only [Option.bind_some, hcommand]
  rw [Text.after?_eq_some_iff.mpr rfl]
  simp only [Option.bind_some, hargument]
  rw [Text.after?_eq_some_iff.mpr (List.singleton_append).symm]
  simp only [Option.bind_some, list, trimStart_list hne hnames, span_list hnames,
    parseNames_join hne hnames, parseReason?_writtenReason hreason]
  simp [hne]

end Directive

/-! ## Lines that stand in code -/

namespace Carry

/-- What a scan hands over behind some more lines. -/
def past (carry : Carry) (number : Nat) : List Text → Carry
  | [] => carry
  | raw :: raws => past (carry.next number raw).1 (number + 1) raws

/-- What a scan hands over behind the first lines of a source. -/
def behind (raws : List Text) : Carry := past initial 1 raws

/-- At the end of a text at the start of a line the reader stands in code: no comment has started in
the text, and no literal is open. -/
structure InCodeAt (carry : Carry) (front : Text) : Prop where
  uncommented : (carry.physicalLine 0 front).comment = none
  inCode : (carry.lexerAfter front).mode.inCode

end Carry

theorem physicalLines_append (carry : Carry) (number : Nat) (above below : List Text) :
    physicalLines carry number (above ++ below) =
      physicalLines carry number above ++
        physicalLines (carry.past number above) (number + above.length) below := by
  induction above generalizing carry number with
  | nil => rfl
  | cons raw above ih =>
      rw [List.cons_append, physicalLines, ih, physicalLines, List.cons_append, Carry.past,
        List.length_cons, Nat.add_right_comm, Nat.add_assoc]

theorem physical_scan_of_lines {source raw : Text} {above below : List Text}
    (h : Text.lines source = above ++ raw :: below) :
    (scan source).physical = physicalLines .initial 1 above ++
      (Carry.behind above).physicalLine (above.length + 1) raw ::
        physicalLines ((Carry.behind above).next (above.length + 1) raw).1 (above.length + 2)
          below := by
  rw [scan, h, physicalLines_append, physicalLines, Nat.add_comm 1]
  rfl

theorem mem_scan_of_lines {source raw : Text} {above below : List Text}
    (h : Text.lines source = above ++ raw :: below) :
    (Carry.behind above).physicalLine (above.length + 1) raw ∈ (scan source).physical := by
  rw [physical_scan_of_lines h]
  exact List.mem_append_right _ List.mem_cons_self

theorem eq_physicalLine_of_mem_scan {source raw : Text} {above below : List Text}
    (h : Text.lines source = above ++ raw :: below) {line : PhysicalLine}
    (hline : line ∈ (scan source).physical) (hnumber : line.number = above.length + 1) :
    line = (Carry.behind above).physicalLine (above.length + 1) raw := by
  rw [physical_scan_of_lines h] at hline
  rcases List.mem_append.mp hline with hline | hline
  · obtain ⟨-, htext⟩ := number_of_mem_physicalLines hline
    have hlt := (List.getElem?_eq_some_iff.mp htext).1
    omega
  · rcases List.mem_cons.mp hline with hline | hline
    · exact hline
    · have hle := (number_of_mem_physicalLines hline).1
      omega

namespace Lexer

/-- The reader is at most one or two quotation marks into a literal, and not other marks. -/
def Marked (lx : Lexer) : Prop :=
  ∀ mark, lx.mode = .opened mark ∨ lx.mode = .doubled mark → IsQuotationMark mark

theorem Marked.step {lx : Lexer} (h : lx.Marked) (c : Char) : (lx.step c).Marked := by
  obtain ⟨mode, depth⟩ := lx
  intro mark hmark
  cases mode <;> grind [Lexer.step, stepCode, stepShort, Marked, IsQuotationMark]

theorem Marked.run {lx : Lexer} (h : lx.Marked) (t : Text) : (lx.run t).Marked := by
  induction t generalizing lx with
  | nil => exact h
  | cons c t ih => exact ih (h.step c)

theorem marked_start (string : Option OpenString) (depth : Nat) :
    Marked ⟨Mode.start string, depth⟩ := by
  rintro mark hmark
  rcases string with _ | ⟨m, _ | _⟩ <;> simp [Mode.start] at hmark

theorem Marked.step_space {lx : Lexer} (h : lx.Marked) (hcode : lx.mode.inCode) :
    lx.step ' ' = ⟨.code, lx.depth⟩ := by
  obtain ⟨mode, depth⟩ := lx
  cases mode with
  | code => rfl
  | doubled mark =>
      have hmark := h mark (.inr rfl)
      have hne : ' ' ≠ mark := by
        rintro rfl
        simp [IsQuotationMark] at hmark
      exact if_neg hne
  | _ => simp [Mode.inCode] at hcode

end Lexer

namespace Carry

variable {carry : Carry} {number : Nat} {front comment : Text}

theorem InCodeAt.string_next (h : carry.InCodeAt front) (number : Nat) :
    (carry.next number front).1.string = none ∧
      (carry.next number front).1.depth = (carry.lexerAfter front).depth := by
  obtain ⟨hstring, hdepth⟩ := carry.next_lexer number front
  exact ⟨hstring.trans (openAfter_of_inCode h.inCode front), hdepth⟩

theorem InCodeAt.append_space (h : carry.InCodeAt front) :
    carry.InCodeAt (front ++ [' ']) ∧
      (carry.lexerAfter (front ++ [' '])).depth = (carry.lexerAfter front).depth := by
  let p : Point := ⟨carry, 0, front⟩
  have hmarked : p.lexer.Marked := (Lexer.marked_start _ _).run _
  obtain ⟨hcomment, hlexer⟩ := Point.of_push (p := p) (c := ' ') h.uncommented (by decide) (by simp)
  rw [hmarked.step_space h.inCode] at hlexer
  have hafter : carry.lexerAfter (front ++ [' ']) =
      ⟨.code, (carry.lexerAfter front).depth⟩ := hlexer
  exact ⟨⟨hcomment, by rw [hafter]; rfl⟩, by rw [hafter]⟩

theorem InCodeAt.split_eq (h : carry.InCodeAt front) :
    Lexer.split ⟨Mode.start carry.string, carry.depth⟩ front = (front, none) :=
  (Point.comment_line_eq_none_iff (p := ⟨carry, 0, front⟩)).mp h.uncommented

theorem InCodeAt.split_comment (h : carry.InCodeAt front) (hmark : comment.head? = some '#') :
    Lexer.split ⟨Mode.start carry.string, carry.depth⟩ (front ++ comment) =
      (front, some comment) := by
  obtain ⟨t, rfl⟩ := List.head?_eq_some_iff.mp hmark
  have hcode := h.inCode
  rw [lexerAfter, codeOf, h.split_eq] at hcode
  rw [Lexer.split_append h.split_eq, Lexer.split_comment hcode, List.append_nil]

theorem InCodeAt.comment_physicalLine (h : carry.InCodeAt front)
    (hmark : comment.head? = some '#') (number : Nat) :
    (carry.physicalLine number (front ++ comment)).comment =
      some ⟨Text.byteLength front, comment⟩ := by
  rw [physicalLine, h.split_comment hmark]
  rfl

theorem InCodeAt.next_comment (h : carry.InCodeAt front) (hmark : comment.head? = some '#')
    (number : Nat) :
    (carry.next number (front ++ comment)).1.string = none ∧
      (carry.next number (front ++ comment)).1.depth = (carry.lexerAfter front).depth := by
  have hafter : carry.lexerAfter (front ++ comment) = carry.lexerAfter front := by
    rw [lexerAfter, codeOf, h.split_comment hmark, lexerAfter, codeOf, h.split_eq]
  obtain ⟨hstring, hdepth⟩ := carry.next_lexer number (front ++ comment)
  rw [hafter] at hstring hdepth
  exact ⟨hstring.trans (openAfter_of_inCode h.inCode _), hdepth⟩

end Carry

/-! ## What a directive changes -/

namespace Comments

variable {carry carry' : Carry} {number : Nat} {raws : List Text} {first : Bool} {f : Finding}

/-- The findings depend on a scan only by the literals and brackets that it has seen open. -/
theorem findingsFrom_congr (hstring : carry.string = carry'.string)
    (hdepth : carry.depth = carry'.depth) :
    findingsFrom first (physicalLines carry number raws) =
      findingsFrom first (physicalLines carry' number raws) := by
  induction raws generalizing carry carry' number first with
  | nil => rfl
  | cons raw raws ih =>
      obtain ⟨string, depth, pending, run, longest⟩ := carry
      obtain ⟨string', depth', pending', run', longest'⟩ := carry'
      obtain rfl : string = string' := hstring
      obtain rfl : depth = depth' := hdepth
      have hnext := Carry.next_lexer ⟨string, depth, pending, run, longest⟩ number raw
      have hnext' := Carry.next_lexer ⟨string, depth, pending', run', longest'⟩ number raw
      rw [physicalLines, physicalLines, findingsFrom_cons, findingsFrom_cons,
        ih (hnext.1.trans hnext'.1.symm) (hnext.2.trans hnext'.2.symm)]
      rfl

theorem line_of_mem_findingsFrom (h : f ∈ findingsFrom first (physicalLines carry number raws)) :
    number ≤ f.line ∧ f.line < number + raws.length := by
  obtain ⟨line, hline, hnumber, -⟩ := exists_of_mem_findingsFrom h
  obtain ⟨hle, htext⟩ := number_of_mem_physicalLines hline
  have hlt := (List.getElem?_eq_some_iff.mp htext).1
  omega

theorem filter_findingsFrom {line : Nat} (h : line < number ∨ number + raws.length ≤ line) :
    (findingsFrom first (physicalLines carry number raws)).filter (·.line ≠ line) =
      findingsFrom first (physicalLines carry number raws) := by
  apply List.filter_eq_self.mpr
  intro f hf
  have hbounds := line_of_mem_findingsFrom hf
  simp only [decide_eq_true_eq]
  omega

/-- Where no block starts, only the findings of the first line are lost. -/
theorem findingsFrom_false (h : carry.string = none) :
    findingsFrom false (physicalLines carry number raws) =
      (findingsFrom true (physicalLines carry number raws)).filter (·.line ≠ number) := by
  cases raws with
  | nil => rfl
  | cons raw raws =>
      let line := carry.physicalLine number raw
      have hcode : line.inString = false := by simp [line, Carry.physicalLine, h]
      have hbelow : ∀ first, firstBelow first line = line.comment.isNone := by
        simp [firstBelow, hcode]
      have hnone : ofLine false line = [] := by
        cases hcomment : line.comment <;> simp [ofLine, hcode, hcomment]
      have hfirst : (ofLine true line).filter (·.line ≠ number) = [] := by
        refine List.filter_eq_nil_iff.mpr fun f hf => ?_
        simp [(of_mem_ofLine hf).1, line, Carry.physicalLine]
      rw [physicalLines, findingsFrom_cons, findingsFrom_cons, hbelow, hbelow, hnone,
        List.filter_append, hfirst, filter_findingsFrom (.inl (Nat.lt_succ_self number))]

/-- A directive that is appended to a line of code is not examined, but it is taken for the
first comment of a block: the findings on the next line are lost. Where the line starts in a literal
it is passed over, and nothing is lost. -/
theorem findings_append_directive {source edited raw names : Text} {above below : List Text}
    (hsource : Text.lines source = above ++ raw :: below)
    (hedited : Text.lines edited =
      above ++ (raw ++ ' ' :: ' ' :: (Directive.opening ++ names)) :: below)
    (hcode : (Carry.behind above).InCodeAt raw) :
    findings (scan edited) =
      if (Carry.behind above).string.isSome then findings (scan source)
      else (findings (scan source)).filter (·.line ≠ above.length + 2) := by
  let carry := Carry.behind above
  let number := above.length + 1
  let directive := Directive.opening ++ names
  have hmark : directive.head? = some '#' := Directive.head?_opening_append names
  obtain ⟨honce, hdepth⟩ := hcode.append_space
  obtain ⟨htwice, hdepth'⟩ := honce.append_space
  have hline : raw ++ ' ' :: ' ' :: directive = raw ++ [' '] ++ [' '] ++ directive := by simp
  rw [hline] at hedited
  -- Neither line has findings of its own.
  have hnone : (carry.physicalLine number raw).comment = none := hcode.uncommented
  have hcomment := htwice.comment_physicalLine hmark number
  have hdirective : Directive.isDirective directive := Directive.isDirective_opening_append names
  obtain ⟨hstring, hbrackets⟩ := hcode.string_next number
  obtain ⟨hstring', hbrackets'⟩ := htwice.next_comment hmark number
  have hbelow : ∀ first, findingsFrom first (physicalLines
      (carry.next number (raw ++ [' '] ++ [' '] ++ directive)).1 (number + 1) below) =
      findingsFrom first (physicalLines (carry.next number raw).1 (number + 1) below) :=
    fun first => findingsFrom_congr (hstring'.trans hstring.symm)
      (by rw [hbrackets, hbrackets', hdepth', hdepth])
  rw [findings, findings, physical_scan_of_lines hedited, physical_scan_of_lines hsource,
    findingsFrom_append, findingsFrom_append, findingsFrom_cons, findingsFrom_cons,
    ofLine_of_comment_eq_none hnone, ofLine_of_isDirective hcomment hdirective, List.nil_append,
    List.nil_append, hbelow]
  by_cases hliteral : carry.string.isSome
  · have hfirst : ∀ first raw, firstBelow first (carry.physicalLine number raw) = first :=
      fun first raw => if_pos hliteral
    rw [if_pos hliteral, hfirst, hfirst]
  · have hfirst : ∀ first raw, firstBelow first (carry.physicalLine number raw) =
        (carry.physicalLine number raw).comment.isNone := fun first raw => if_neg hliteral
    have habove : (findingsFrom true (physicalLines .initial 1 above)).filter
        (·.line ≠ above.length + 2) = findingsFrom true (physicalLines .initial 1 above) := by
      apply filter_findingsFrom
      omega
    rw [if_neg hliteral, hfirst, hfirst, hcomment, hnone, List.filter_append, habove]
    exact congrArg _ (findingsFrom_false hstring)

/-- A comment that opens a block and breaks a rule. -/
def commentBelow : Text := "x = 1\n#\n".toList

/-- The same comment below a directive that names another message. -/
def commentBelowDirective : Text := "x = 1  # twistlint: disable=W9601\n#\n".toList

theorem findings_append_directive_commentBelow :
    let raw := "x = 1".toList
    let names := "W9601".toList
    Text.lines commentBelow = [] ++ raw :: [['#']] ∧
      Text.lines commentBelowDirective =
        [] ++ (raw ++ ' ' :: ' ' :: (Directive.opening ++ names)) :: [['#']] ∧
      (Carry.behind []).InCodeAt raw ∧
      findings (scan commentBelowDirective) =
        (findings (scan commentBelow)).filter (·.line ≠ 2) := by
  have hsource : Text.lines commentBelow = [] ++ "x = 1".toList :: [['#']] := by decide
  have hedited : Text.lines commentBelowDirective = [] ++
      ("x = 1".toList ++ ' ' :: ' ' :: (Directive.opening ++ "W9601".toList)) :: [['#']] := by
    decide
  have hcode : (Carry.behind []).InCodeAt "x = 1".toList := ⟨by decide, by decide⟩
  exact ⟨hsource, hedited, hcode, findings_append_directive hsource hedited hcode⟩

/-- The directive is appended to a line of code, and a finding below it is lost. -/
theorem findings_commentBelow_lost :
    Text.lines commentBelow = ["x = 1".toList, ['#']] ∧
      Text.lines commentBelowDirective = ["x = 1  # twistlint: disable=W9601".toList, ['#']] ∧
      (Carry.behind []).InCodeAt "x = 1".toList ∧
      findings (scan commentBelow) = [⟨oneWhitespace.code, 2, 1⟩] ∧
      findings (scan commentBelowDirective) = [] :=
  ⟨by decide, by decide, ⟨by decide, by decide⟩, by decide, by decide⟩

end Comments

namespace Suppressions

variable {source front : Text} {names : List Text} {reason : Option Text} {above below : List Text}

theorem onLine?_written
    (hsource : Text.lines source = above ++ (front ++ Directive.written names reason) :: below)
    (hcode : (Carry.behind above).InCodeAt front)
    (hparsed : Directive.parse? (Directive.written names reason) = some ⟨names, reason⟩)
    (hother : ∀ line ∈ (scan source).physical, line.number ≠ above.length + 1 →
      ∀ comment, line.comment = some comment → Directive.parse? comment.text = none) (line : Nat) :
    (ofScan (scan source)).onLine? line =
      if line = above.length + 1 then some ⟨names, reason⟩ else none := by
  by_cases hline : line = above.length + 1
  · rw [if_pos hline, onLine?_ofScan_eq_some_iff]
    exact ⟨_, mem_scan_of_lines hsource, hline.symm, _,
      hcode.comment_physicalLine Directive.head?_written _, hparsed⟩
  · rw [if_neg hline, Option.eq_none_iff_forall_not_mem]
    intro directive hdirective
    obtain ⟨physical, hphysical, rfl, comment, hcomment, hfound⟩ :=
      onLine?_ofScan_eq_some_iff.mp hdirective
    rw [hother physical hphysical hline comment hcomment] at hfound
    cases hfound

theorem covers_iff {directive : Directive} {code symbol : String} :
    directive.covers code symbol = true ↔
      ∃ name ∈ ["all", code, symbol], name.toList ∈ directive.names := by
  simp only [Directive.covers, List.any_eq_true, List.contains_iff_mem]

theorem verdictOf?_written
    (hsource : Text.lines source = above ++ (front ++ Directive.written names reason) :: below)
    (hcode : (Carry.behind above).InCodeAt front)
    (hparsed : Directive.parse? (Directive.written names reason) = some ⟨names, reason⟩)
    (hother : ∀ line ∈ (scan source).physical, line.number ≠ above.length + 1 →
      ∀ comment, line.comment = some comment → Directive.parse? comment.text = none)
    (line : Nat) (code symbol : String) :
    (ofScan (scan source)).verdictOf? line code symbol =
      if line = above.length + 1 ∧ ∃ name ∈ ["all", code, symbol], name.toList ∈ names
      then some (.silenced reason) else none := by
  rw [verdictOf?, onLine?_written hsource hcode hparsed hother]
  by_cases hline : line = above.length + 1
  · simp [hline, covers_iff]
  · simp [hline]

/-- The comment of a directive is not examined. -/
theorem line_ne_of_mem_findings
    (hsource : Text.lines source = above ++ (front ++ Directive.written names reason) :: below)
    (hcode : (Carry.behind above).InCodeAt front) {f : Comments.Finding}
    (hf : f ∈ Comments.findings (scan source)) : f.line ≠ above.length + 1 := by
  intro hnumber
  obtain ⟨line, hline, hon, comment, hcomment, hdirective⟩ :=
    Comments.exists_of_mem_findingsFrom hf
  obtain rfl := eq_physicalLine_of_mem_scan hsource hline (hon.symm.trans hnumber)
  rw [hcode.comment_physicalLine Directive.head?_written] at hcomment
  obtain rfl := Option.some.inj hcomment
  rw [Directive.isDirective_written] at hdirective
  cases hdirective

/-- A directive that was written behind some code silences exactly the messages that it names, on
its own line and on the next one, for the reason that it gives. Its own comment is not examined. -/
theorem check_written
    (hsource : Text.lines source = above ++ (front ++ Directive.written names reason) :: below)
    (hcode : (Carry.behind above).InCodeAt front) (hne : names ≠ [])
    (hnames : ∀ name ∈ names, Directive.IsName name) (hreason : ∀ r, reason = some r → '"' ∉ r)
    (hother : ∀ line ∈ (scan source).physical, line.number ≠ above.length + 1 →
      ∀ comment, line.comment = some comment → Directive.parse? comment.text = none) :
    (∀ line code symbol, (ofScan (scan source)).check line code symbol =
      if (line = above.length + 1 ∨ line = above.length + 2) ∧
          ∃ name ∈ ["all", code, symbol], name.toList ∈ names
      then .silenced reason else .reported) ∧
    ∀ f ∈ Comments.findings (scan source), f.line ≠ above.length + 1 := by
  have hparsed := Directive.parse?_written hne hnames hreason
  refine ⟨fun line code symbol => ?_, fun f hf => line_ne_of_mem_findings hsource hcode hf⟩
  have hverdict := fun l => verdictOf?_written hsource hcode hparsed hother l code symbol
  rw [check, hverdict, hverdict]
  by_cases hlisted : ∃ name ∈ ["all", code, symbol], name.toList ∈ names
  · simp only [hlisted, and_true]
    rcases Nat.lt_trichotomy line (above.length + 1) with hbefore | rfl | hbehind
    · rw [if_neg (by omega), if_neg (by omega), if_neg (by omega)]
      rfl
    · simp
    · by_cases hnext : line = above.length + 2
      · simp [hnext]
      · rw [if_neg (by omega), if_neg (by omega), if_neg (by omega)]
        rfl
  · simp only [hlisted, and_false, if_false]
    rfl

/-- A directive with two names and a reason behind a literal with a mark, below a line with another
comment. -/
def twoNames : Text :=
  "a = 1  # A note\nb = '#'  # twistlint: disable=W9202,no-name reason=\"é # x\"\nc = 2\n".toList

theorem check_written_twoNames :
    let s := ofScan (scan twoNames)
    let reason := some "é # x".toList
    s.check 2 "W9202" "missing-param-markup" = .silenced reason ∧
      s.check 3 "W9001" "no-name" = .silenced reason ∧
      s.check 3 "W9001" "missing-copyright" = .reported ∧
      s.check 4 "W9202" "missing-param-markup" = .reported ∧
      ∀ f ∈ Comments.findings (scan twoNames), f.line ≠ 2 := by
  have hsource : Text.lines twoNames = ["a = 1  # A note".toList] ++
      ("b = '#'  ".toList ++ Directive.written ["W9202".toList, "no-name".toList]
        (some "é # x".toList)) :: ["c = 2".toList] := by decide
  have hnames : ∀ name ∈ ["W9202".toList, "no-name".toList], Directive.IsName name := by
    have hblank : ∀ name ∈ ["W9202".toList, "no-name".toList],
        name ≠ [] ∧ name.all (!Text.isBlank ·) ∧ ',' ∉ name := by decide
    intro name hname
    obtain ⟨hne, hall, hcomma⟩ := hblank name hname
    exact ⟨hne, by simpa using hall, hcomma⟩
  have hparsed : ∀ line ∈ (scan twoNames).physical, line.number ≠ 2 →
      line.comment.bind (fun comment => Directive.parse? comment.text) = none := by decide
  obtain ⟨hcheck, hfindings⟩ := check_written hsource ⟨by decide, by decide⟩ (by decide) hnames
    (by rintro _ ⟨⟩; decide) fun line hline hnumber comment hcomment => by
      simpa [hcomment] using hparsed line hline hnumber
  refine ⟨?_, ?_, ?_, ?_, hfindings⟩ <;> rw [hcheck] <;> decide

end Suppressions

end CodingStandard
