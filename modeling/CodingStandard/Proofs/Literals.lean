import CodingStandard.Proofs.Offsets
import CodingStandard.Proofs.OrderedTree

namespace CodingStandard

/-!
# Literals and the lines that they span

A literal stands somewhere in a source: letters, quotes, a text, and the same quotes. Where carriage
returns stand only before newlines, the lines of the source run through the text of the literal one
by one, whichever way they end.
-/

namespace Text

/-! ## Rows -/

/-- What stands between two newlines that follow each other, counted from zero; nothing behind the
last row. -/
def row (t : Text) (i : Nat) : Text := ((List.splitOn '\n' t)[i]?).getD []

theorem row_newline_zero (t : Text) : row ('\n' :: t) 0 = [] := by
  simp [row, List.splitOn_cons_eq_if_modifyHead]

theorem row_newline_succ (t : Text) (i : Nat) : row ('\n' :: t) (i + 1) = row t i := by
  simp [row, List.splitOn_cons_eq_if_modifyHead]

theorem row_cons_zero {c : Char} (hc : c ≠ '\n') (t : Text) : row (c :: t) 0 = c :: row t 0 := by
  have hne := List.splitOn_ne_nil '\n' t
  rw [row, row, List.splitOn_cons_eq_if_modifyHead, if_neg (by simpa using hc)]
  cases hparts : List.splitOn '\n' t with
  | nil => exact absurd hparts hne
  | cons part parts => simp

theorem row_cons_succ {c : Char} (hc : c ≠ '\n') (t : Text) (i : Nat) :
    row (c :: t) (i + 1) = row t (i + 1) := by
  rw [row, row, List.splitOn_cons_eq_if_modifyHead, if_neg (by simpa using hc),
    List.getElem?_modifyHead_succ]

theorem length_splitOn (t : Text) : (List.splitOn '\n' t).length = t.count '\n' + 1 := by
  induction t with
  | nil => rfl
  | cons c t ih =>
      rw [List.splitOn_cons_eq_if_modifyHead]
      by_cases hc : c = '\n' <;> simp [hc, ih]

theorem row_of_not_mem {t : Text} (h : '\n' ∉ t) : row t 0 = t := by
  rw [row, List.splitOn_eq_singleton h]
  rfl

theorem row_append_of_lt {s : Text} {i : Nat} (h : i < s.count '\n') (t : Text) :
    row (s ++ t) i = row s i := by
  induction s generalizing i with
  | nil => simp at h
  | cons c s ih =>
      by_cases hc : c = '\n'
      · rw [hc, List.count_cons_self] at h
        rw [hc, List.cons_append]
        cases i with
        | zero => rw [row_newline_zero, row_newline_zero]
        | succ i => rw [row_newline_succ, row_newline_succ, ih (Nat.lt_of_succ_lt_succ h)]
      · rw [List.count_cons_of_ne hc] at h
        rw [List.cons_append]
        cases i with
        | zero => rw [row_cons_zero hc, row_cons_zero hc, ih h]
        | succ i => rw [row_cons_succ hc, row_cons_succ hc, ih h]

theorem row_append_count (s t : Text) :
    row (s ++ t) (s.count '\n') = row s (s.count '\n') ++ row t 0 := by
  induction s with
  | nil => simp [row]
  | cons c s ih =>
      by_cases hc : c = '\n'
      · rw [hc, List.cons_append, List.count_cons_self, row_newline_succ, row_newline_succ, ih]
      · rw [List.cons_append, List.count_cons_of_ne hc]
        cases hcount : s.count '\n' with
        | zero =>
            rw [hcount] at ih
            rw [row_cons_zero hc, row_cons_zero hc, ih, List.cons_append]
        | succ n =>
            rw [hcount] at ih
            rw [row_cons_succ hc, row_cons_succ hc, ih]

theorem row_append_succ (s t : Text) (i : Nat) :
    row (s ++ t) (s.count '\n' + (i + 1)) = row t (i + 1) := by
  induction s with
  | nil => simp
  | cons c s ih =>
      by_cases hc : c = '\n'
      · rw [hc, List.cons_append, List.count_cons_self, Nat.add_right_comm, row_newline_succ, ih]
      · rw [List.cons_append, List.count_cons_of_ne hc, ← Nat.add_assoc, row_cons_succ hc,
          Nat.add_assoc, ih]

theorem row_append_of_pos {front : Text} (h : '\n' ∉ front) {i : Nat} (hi : 0 < i)
    (before t : Text) : row (before ++ (front ++ t)) (before.count '\n' + i) = row t i := by
  obtain ⟨i, rfl⟩ := Nat.exists_eq_add_of_le' hi
  have hfront := row_append_succ front t i
  rw [List.count_eq_zero_of_not_mem h, Nat.zero_add] at hfront
  rw [row_append_succ, hfront]

theorem row_filter {p : Char → Bool} (hp : p '\n' = true) (t : Text) (i : Nat) :
    row (t.filter p) i = (row t i).filter p := by
  induction t generalizing i with
  | nil => cases i <;> simp [row]
  | cons c t ih =>
      by_cases hc : c = '\n'
      · rw [hc, List.filter_cons_of_pos hp]
        cases i with
        | zero => simp [row_newline_zero]
        | succ i => rw [row_newline_succ, row_newline_succ, ih]
      · by_cases hkept : p c = true
        · rw [List.filter_cons_of_pos hkept]
          cases i with
          | zero => rw [row_cons_zero hc, row_cons_zero hc, ih, List.filter_cons_of_pos hkept]
          | succ i => rw [row_cons_succ hc, row_cons_succ hc, ih]
        · rw [List.filter_cons_of_neg hkept]
          cases i with
          | zero => rw [row_cons_zero hc, ih, List.filter_cons_of_neg hkept]
          | succ i => rw [row_cons_succ hc, ih]

/-! ## Carriage returns -/

/-- Every carriage return stands before a newline. -/
def NoBareReturn (t : Text) : Prop :=
  ∀ before after, t = before ++ '\r' :: after → after.head? = some '\n'

theorem noBareReturn_iff {t : Text} :
    NoBareReturn t ↔ ∀ i < t.length, t[i]? = some '\r' → t[i + 1]? = some '\n' := by
  constructor
  · intro h i _ hi
    obtain ⟨hlt, hreturn⟩ := List.getElem?_eq_some_iff.mp hi
    have ht : t = t.take i ++ '\r' :: t.drop (i + 1) := by
      rw [← hreturn, ← List.drop_eq_getElem_cons hlt, List.take_append_drop]
    rw [← List.head?_drop]
    exact h _ _ ht
  · rintro h before after rfl
    have hnext := h before.length (by simp) (by simp)
    rw [List.getElem?_append_right (by omega), Nat.add_sub_cancel_left] at hnext
    rwa [List.head?_eq_getElem?]

instance (t : Text) : Decidable (NoBareReturn t) := decidable_of_iff _ noBareReturn_iff.symm

theorem NoBareReturn.right {s t : Text} (h : NoBareReturn (s ++ t)) : NoBareReturn t := by
  rintro before after rfl
  exact h (s ++ before) after (List.append_assoc ..).symm

theorem NoBareReturn.left {s t : Text} {c : Char} (h : NoBareReturn (s ++ c :: t))
    (hc : c ≠ '\n') : NoBareReturn s := by
  rintro before after rfl
  have hhead := h before (after ++ c :: t) (by simp)
  cases after with
  | nil => exact absurd (Option.some.inj hhead) hc
  | cons d after => exact hhead

theorem NoBareReturn.tail {c : Char} {t : Text} (h : NoBareReturn (c :: t)) : NoBareReturn t :=
  NoBareReturn.right (s := [c]) h

theorem filter_of_not_mem {t : Text} (h : '\r' ∉ t) : t.filter (· != '\r') = t :=
  List.filter_eq_self.mpr fun _ hc => bne_iff_ne.mpr fun heq => h (heq ▸ hc)

namespace NoBareReturn

theorem dropTerminator_eq {line rest : Text} (h : NoBareReturn (line ++ '\n' :: rest))
    (hline : '\n' ∉ line) : dropTerminator (line ++ ['\n']) = line.filter (· != '\r') := by
  -- Behind a carriage return, the line ends.
  have hlast : ∀ front back, line = front ++ '\r' :: back → back = [] := by
    rintro front back rfl
    have hhead := h front (back ++ '\n' :: rest) (by simp)
    cases back with
    | nil => rfl
    | cons c back =>
        obtain rfl := Option.some.inj hhead
        simp at hline
  by_cases hreturn : '\r' ∈ line
  · obtain ⟨front, back, rfl, hfront⟩ := List.eq_append_cons_of_mem hreturn
    obtain rfl := hlast front back rfl
    simp [dropTerminator, before?, after?, filter_of_not_mem hfront]
  · rw [dropTerminator_append_newline hreturn, filter_of_not_mem hreturn]

theorem not_mem {t : Text} (h : NoBareReturn t) (hline : '\n' ∉ t) : '\r' ∉ t := by
  intro hreturn
  obtain ⟨front, back, rfl⟩ := List.append_of_mem hreturn
  have hback := List.mem_of_head? (h front back rfl)
  simp [hback] at hline

/-- The lines of a text are its rows without carriage returns. An empty row behind the last newline
is no line. -/
theorem getElem?_lines {t : Text} (h : NoBareReturn t) {i : Nat}
    (hi : i < t.count '\n' ∨ row t i ≠ []) :
    (lines t)[i]? = some ((row t i).filter (· != '\r')) := by
  induction hlength : t.length using Nat.strong_induction_on generalizing t i with
  | _ n ih =>
      by_cases hnewline : '\n' ∈ t
      · obtain ⟨line, rest, rfl, hline⟩ := List.eq_append_cons_of_mem hnewline
        have hcount : line.count '\n' = 0 := List.count_eq_zero_of_not_mem hline
        rw [lines_cons hline, h.dropTerminator_eq hline]
        cases i with
        | zero =>
            have hrow := row_append_count line ('\n' :: rest)
            rw [hcount, row_newline_zero, row_of_not_mem hline, List.append_nil] at hrow
            rw [hrow]
            rfl
        | succ i =>
            have hrow := row_append_succ line ('\n' :: rest) i
            rw [hcount, Nat.zero_add, row_newline_succ] at hrow
            rw [hrow] at hi ⊢
            rw [List.getElem?_cons_succ]
            refine ih rest.length (by simp at hlength; omega) h.right.tail ?_ rfl
            simpa [hcount] using hi
      · rw [List.count_eq_zero_of_not_mem hnewline] at hi
        have hrow := hi.resolve_left (Nat.not_lt_zero i)
        have hzero : i = 0 := by
          by_contra hne
          refine hrow ?_
          rw [row, List.splitOn_eq_singleton hnewline, List.getElem?_eq_none (by simp; omega)]
          rfl
        subst hzero
        rw [row_of_not_mem hnewline] at hrow ⊢
        rw [lines_of_not_mem hnewline, if_neg hrow, filter_of_not_mem (h.not_mem hnewline)]
        rfl

end NoBareReturn

end Text

namespace Literal

theorem normalizeNewlines_eq_filter {t : Text} (h : Text.NoBareReturn t) :
    normalizeNewlines t = t.filter (· != '\r') := by
  fun_induction normalizeNewlines t with
  | case1 t ih => simp [ih h.tail.tail]
  | case2 t hnot ih =>
      obtain ⟨rest, rfl⟩ := List.head?_eq_some_iff.mp (h [] t rfl)
      exact absurd rfl (hnot rest)
  | case3 c t hnot hnot' ih =>
      have hc : c ≠ '\r' := fun heq => hnot' heq
      simp [ih h.tail, hc]
  | case4 => rfl

/-! ## Quotes -/

/-- Letters, quotes, a text, and the same quotes. -/
def IsQuoted (literal : Text) : Prop :=
  ∃ letters body, ∃ mark ∈ delimiters, literal = letters ++ (mark ++ body ++ mark) ∧
    ∀ c ∈ letters, c.isAlpha = true

theorem between?_eq_some_iff {mark t body : Text} :
    between? mark t = some body ↔ t = mark ++ body ++ mark := by
  have htake (body : Text) : ((mark ++ body ++ mark).drop mark.length).take
      ((mark ++ body ++ mark).length - 2 * mark.length) = body := by
    have hlength : (mark ++ body ++ mark).length - 2 * mark.length = body.length := by
      simp only [List.length_append]
      omega
    rw [hlength, List.append_assoc, List.drop_left, List.take_left]
  constructor
  · intro h
    rw [between?] at h
    split_ifs at h with hquotes
    obtain ⟨hlength, hstarts, hends⟩ := hquotes
    obtain ⟨front, hfront⟩ := Option.isSome_iff_exists.mp hends
    obtain rfl := Text.eq_append_of_before? hfront
    have hlead : mark <+: front := by
      refine List.prefix_of_prefix_length_le (Text.startsWith_iff.mp hstarts)
        (List.prefix_append front mark) ?_
      rw [List.length_append] at hlength
      omega
    obtain ⟨inner, rfl⟩ := hlead
    rw [htake] at h
    rw [Option.some.inj h]
  · rintro rfl
    rw [between?, if_pos, htake]
    refine ⟨by simp only [List.length_append]; omega, Text.startsWith_iff.mpr ?_, ?_⟩
    · rw [List.append_assoc]
      exact List.prefix_append _ _
    · rw [Text.endsWith, Text.before?_eq_some_iff.mpr rfl, Option.isSome_some]

theorem exists_quote {mark : Text} (h : mark ∈ delimiters) :
    ∃ quote rest, mark = quote :: rest ∧ ∀ c ∈ quote :: rest, c = '"' ∨ c = '\'' := by
  have hall : ∀ mark ∈ delimiters, mark ≠ [] ∧ ∀ c ∈ mark, c = '"' ∨ c = '\'' := by
    simp [delimiters]
  obtain ⟨hne, hquotes⟩ := hall mark h
  obtain ⟨quote, rest, rfl⟩ := List.exists_cons_of_ne_nil hne
  exact ⟨quote, rest, rfl, hquotes⟩

theorem dropWhile_letters {letters mark : Text} (hletters : ∀ c ∈ letters, c.isAlpha = true)
    (hmark : mark ∈ delimiters) (body : Text) :
    (letters ++ (mark ++ body ++ mark)).dropWhile Char.isAlpha = mark ++ body ++ mark := by
  obtain ⟨quote, rest, rfl, hquotes⟩ := exists_quote hmark
  refine Text.dropWhile_append_eq hletters fun c hc => ?_
  obtain rfl := Option.some.inj hc
  rcases hquotes quote List.mem_cons_self with rfl | rfl <;> decide

/-- The value of a literal stands between quotes, and no newline stands before it. -/
theorem IsQuoted.value_spec {literal : Text} (h : IsQuoted literal) :
    ∃ front quote rest, literal = front ++ value literal ++ quote :: rest ∧ '\n' ∉ front ∧
      ∀ c ∈ quote :: rest, c = '"' ∨ c = '\'' := by
  obtain ⟨letters, body, mark, hmark, rfl, hletters⟩ := h
  have hdrop := dropWhile_letters hletters hmark body
  have hsome : (delimiters.findSome? (between? · (mark ++ body ++ mark))).isSome := by
    rw [List.findSome?_isSome_iff]
    exact ⟨mark, hmark, by rw [between?_eq_some_iff.mpr rfl]; rfl⟩
  obtain ⟨inner, hinner⟩ := Option.isSome_iff_exists.mp hsome
  have hvalue : value (letters ++ (mark ++ body ++ mark)) = inner := by
    rw [value, hdrop, hinner, Option.getD_some]
  obtain ⟨mark', hmark', hbetween⟩ := List.exists_of_findSome?_eq_some hinner
  obtain ⟨quote, rest, rfl, hquotes⟩ := exists_quote hmark'
  refine ⟨letters ++ quote :: rest, quote, rest, ?_, ?_, hquotes⟩
  · rw [hvalue, between?_eq_some_iff.mp hbetween]
    simp
  · rw [List.mem_append]
    rintro (hnewline | hnewline)
    · exact absurd (hletters _ hnewline) (by decide)
    · exact absurd (hquotes _ hnewline) (by decide)

/-- A quoted literal stands at a place of a source. -/
structure StandsIn (source literal : Text) (place : Place) : Prop where
  quoted : IsQuoted literal
  found : ∃ before after, source = before ++ literal ++ after ∧ place = Place.after ⟨1, 0⟩ before

end Literal

theorem Place.line_after (place : Place) (t : Text) :
    (place.after t).line = place.line + t.count '\n' := by
  induction t generalizing place with
  | nil => rfl
  | cons c t ih =>
      change (Place.after (if c = '\n' then _ else _) t).line = _
      by_cases hc : c = '\n'
      · rw [if_pos hc, ih, hc, List.count_cons_self]
        dsimp only
        omega
      · rw [if_neg hc, ih, List.count_cons_of_ne hc]

/-! ## Docstrings -/

/-- A docstring is a literal of a source. -/
structure Docstring.StandsIn (source : Text) (doc : Docstring) : Prop where
  literal : Literal.StandsIn source doc.raw doc.place
  value_eq : doc.value = Literal.normalizeNewlines (Literal.value doc.raw)

namespace Docstring.StandsIn

variable {m : Module} {doc : Docstring} {i : Nat}

/-- The source around the text between the quotes of a docstring, and what becomes of this text. -/
theorem exists_surroundings (h : doc.StandsIn m.source) (hsource : Text.NoBareReturn m.source) :
    ∃ before front inner quote behind,
      m.source = before ++ (front ++ (inner ++ quote :: behind)) ∧ '\n' ∉ front ∧
      (quote = '"' ∨ quote = '\'') ∧ doc.place.line = 1 + before.count '\n' ∧
      doc.value = inner.filter (· != '\r') ∧ doc.raw.count '\n' = inner.count '\n' := by
  obtain ⟨⟨hquoted, before, after, hfound, hplace⟩, hvalue⟩ := h
  obtain ⟨front, quote, quotes, hraw, hfront, hquotes⟩ := hquoted.value_spec
  have hnewline : '\n' ∉ quote :: quotes := fun hmem => absurd (hquotes _ hmem) (by decide)
  generalize Literal.value doc.raw = inner at hraw hvalue
  have htext : m.source = before ++ (front ++ (inner ++ quote :: (quotes ++ after))) := by
    rw [hfound, hraw]
    simp
  have hinner : Text.NoBareReturn inner := by
    rw [htext] at hsource
    exact hsource.right.right.left (List.ne_and_not_mem_of_not_mem_cons hnewline).1.symm
  refine ⟨before, front, inner, quote, quotes ++ after, htext, hfront,
    hquotes quote List.mem_cons_self, ?_, ?_, ?_⟩
  · rw [hplace, Place.line_after]
  · rw [hvalue, Literal.normalizeNewlines_eq_filter hinner]
  · rw [hraw, List.count_append, List.count_append, List.count_eq_zero_of_not_mem hfront,
      List.count_eq_zero_of_not_mem hnewline, Nat.zero_add, Nat.add_zero]

theorem count_raw (h : doc.StandsIn m.source) (hsource : Text.NoBareReturn m.source) :
    doc.raw.count '\n' = doc.value.count '\n' := by
  obtain ⟨-, -, inner, -, -, -, -, -, -, hvalue, hraw⟩ := h.exists_surroundings hsource
  rw [hraw, hvalue, List.count_filter (by decide)]

/-- The lines of the source behind the one where a docstring starts run through its rows. -/
theorem line?_of_lt (h : doc.StandsIn m.source) (hsource : Text.NoBareReturn m.source)
    (hpos : 0 < i) (hi : i < doc.value.count '\n') :
    m.line? (doc.place.line + i) = some (Text.row doc.value i) := by
  obtain ⟨before, front, inner, quote, behind, htext, hfront, -, hline, hvalue, -⟩ :=
    h.exists_surroundings hsource
  rw [hvalue, List.count_filter (by decide)] at hi
  have hrow : Text.row m.source (before.count '\n' + i) = Text.row inner i := by
    rw [htext, Text.row_append_of_pos hfront hpos, Text.row_append_of_lt hi]
  have hin : before.count '\n' + i < m.source.count '\n' := by
    rw [htext]
    simp only [List.count_append]
    omega
  rw [Module.line?, if_neg (by omega), hline, Nat.add_assoc, Nat.add_sub_cancel_left,
    hsource.getElem?_lines (.inl hin), hrow, hvalue, Text.row_filter (by decide)]

theorem line?_last (h : doc.StandsIn m.source) (hsource : Text.NoBareReturn m.source)
    (hpos : 0 < doc.value.count '\n') :
    ∃ quote rest, (quote = '"' ∨ quote = '\'') ∧
      m.line? (doc.place.line + doc.value.count '\n') =
        some (Text.row doc.value (doc.value.count '\n') ++ quote :: rest) := by
  obtain ⟨before, front, inner, quote, behind, htext, hfront, hquote, hline, hvalue, -⟩ :=
    h.exists_surroundings hsource
  have hcount : doc.value.count '\n' = inner.count '\n' := by
    rw [hvalue, List.count_filter (by decide)]
  rw [hcount] at hpos ⊢
  have hnewline : quote ≠ '\n' := by rcases hquote with rfl | rfl <;> decide
  have hreturn : (quote != '\r') = true := by rcases hquote with rfl | rfl <;> decide
  have hrow : Text.row m.source (before.count '\n' + inner.count '\n') =
      Text.row inner (inner.count '\n') ++ quote :: Text.row behind 0 := by
    rw [htext, Text.row_append_of_pos hfront hpos, Text.row_append_count,
      Text.row_cons_zero hnewline]
  have hkept : (Text.row inner (inner.count '\n') ++ quote :: Text.row behind 0).filter
      (· != '\r') = Text.row doc.value (inner.count '\n') ++
        quote :: (Text.row behind 0).filter (· != '\r') := by
    rw [List.filter_append, List.filter_cons, if_pos hreturn, hvalue, Text.row_filter (by decide)]
  refine ⟨quote, (Text.row behind 0).filter (· != '\r'), hquote, ?_⟩
  rw [Module.line?, if_neg (by omega), hline, Nat.add_assoc, Nat.add_sub_cancel_left,
    hsource.getElem?_lines (.inr (by simp [hrow])), hrow, hkept]

end Docstring.StandsIn

/-! ## Docstrings of trees -/

namespace Tree

/-- Every string literal of a tree stands in a source, letters and quotes included. -/
inductive StandsIn (source : Text) : Tree → Prop where
  | node {kind : TreeKind} {role : Role} {place : Place} {text : Text} {children : List Tree}
      (hliteral : kind = .string → Literal.StandsIn source text place)
      (hchildren : ∀ t ∈ children, t.StandsIn source) :
      StandsIn source (.node kind role place text children)

variable {source : Text}

theorem standsIn_node_iff {kind : TreeKind} {role : Role} {place : Place} {text : Text}
    {children : List Tree} : (Tree.node kind role place text children).StandsIn source ↔
      (kind = .string → Literal.StandsIn source text place) ∧
        ∀ t ∈ children, t.StandsIn source := by
  refine ⟨fun h => ?_, fun h => .node h.1 h.2⟩
  cases h with
  | node hliteral hchildren => exact ⟨hliteral, hchildren⟩

theorem StandsIn.children {kind : TreeKind} {role : Role} {place : Place} {text : Text}
    {children : List Tree} (h : (Tree.node kind role place text children).StandsIn source) :
    ∀ t ∈ children, t.StandsIn source :=
  (standsIn_node_iff.mp h).2

theorem mem_of_mem_parts {t : Tree} {ts : List Tree} (h : t ∈ parts ts) : t ∈ ts :=
  (List.mem_filter.mp h).1

theorem standsIn_of_docstring? {body : List Tree} (h : ∀ t ∈ body, t.StandsIn source)
    {doc : Docstring} (hdoc : docstring? body = some doc) : doc.StandsIn source := by
  unfold docstring? at hdoc
  split at hdoc
  case h_2 => cases hdoc
  case h_1 hstatement =>
    have hchildren := (h _ (mem_of_mem_parts (List.mem_of_head? hstatement))).children
    split at hdoc
    case h_2 => cases hdoc
    case h_1 hliteral =>
      obtain rfl := Option.some.inj hdoc
      have hmem := mem_of_mem_parts (hliteral ▸ List.mem_singleton_self _)
      exact ⟨(standsIn_node_iff.mp (hchildren _ hmem)).1 rfl, rfl⟩

/-- The docstring of a node, if it has one, stands in a source. -/
def DocumentedIn (source : Text) (kind : NodeKind) : Prop :=
  ∀ doc, kind.doc? = some doc → doc.StandsIn source

theorem documentedIn_definitionKind (decorators : List Decorator) (kind : TreeKind)
    {children : List Tree} (h : ∀ t ∈ children, t.StandsIn source) :
    DocumentedIn source (definitionKind decorators kind children) := by
  intro doc hdoc
  have hbody : ((field? .body children).bind fun body => docstring? body.children) = some doc := by
    unfold definitionKind at hdoc
    dsimp only at hdoc
    split at hdoc <;> exact hdoc
  obtain ⟨⟨_, _, _, _, parts⟩, hfield, hdocstring⟩ := Option.bind_eq_some_iff.mp hbody
  exact standsIn_of_docstring? (h _ (List.mem_of_find?_eq_some hfield)).children hdocstring

theorem lowers_documentedIn (source : Text) : Lowers (StandsIn source) (DocumentedIn source) where
  children := StandsIn.children
  definition := documentedIn_definitionKind
  other {kind} hother doc hdoc := by
    cases kind <;> simp [NodeKind.tag, NodeKind.doc?] at hother hdoc

theorem every_outline {t : Tree} (h : t.StandsIn source) :
    t.outline.Every (DocumentedIn source) := by
  obtain ⟨kind, role, place, text, children⟩ := t
  exact .node (fun doc hdoc => standsIn_of_docstring? h.children hdoc)
    (every_lowerAll (lowers_documentedIn source) children h.children)

end Tree

theorem Module.standsIn_of_doc? {name : String} {path : Path} {source : Text} {tree : Tree}
    (h : tree.StandsIn source) {id : Nat} {doc : Docstring}
    (hdoc : (ofTree name path source tree).doc? id = some doc) : doc.StandsIn source := by
  obtain ⟨kind, hkind, hdoc⟩ := Option.bind_eq_some_iff.mp hdoc
  obtain ⟨node, hnode, rfl⟩ := Option.map_eq_some_iff.mp hkind
  rw [ofTree, List.getElem?_toArray] at hnode
  exact (Tree.every_outline h).of_mem_number (List.mem_of_getElem? hnode) doc hdoc

end CodingStandard
