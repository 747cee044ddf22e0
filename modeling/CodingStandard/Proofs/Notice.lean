import CodingStandard.Checker.Header
import CodingStandard.Proofs.Trimming

namespace CodingStandard

/-!
# The copyright notice

A module carries a notice if its lines stand there one below the other. The search joins them by
white space that holds a newline, and white space holds any number of newlines: blank lines between
those of the notice are passed over, and a last line that is empty needs nothing but a newline.
-/

namespace Text

variable {s t gap line : Text} {c : Char}

/-! ## White space around a text -/

theorem isWhite_break {front back : Text} (hfront : isWhite front = true)
    (hback : isWhite back = true) : isWhite (front ++ '\n' :: back) = true := by
  have hnewline : isBlank '\n' = true := by decide
  rw [isWhite, List.all_append, List.all_cons, ← isWhite, hfront, hnewline, ← isWhite, hback]
  rfl

/-- White space that holds a newline, up to the first one and behind it. -/
theorem exists_break (hgap : isWhite gap = true) (hnewline : '\n' ∈ gap) :
    ∃ front back, gap = front ++ '\n' :: back ∧ '\n' ∉ front ∧ isWhite front = true ∧
      isWhite back = true := by
  obtain ⟨front, back, rfl, hfront⟩ := List.eq_append_cons_of_mem hnewline
  rw [isWhite, List.all_append, List.all_cons, Bool.and_eq_true, Bool.and_eq_true] at hgap
  exact ⟨front, back, rfl, hfront, hgap.1, hgap.2.2⟩

theorem exists_trimEnd (t : Text) : ∃ gap, t = trimEnd t ++ gap ∧ isWhite gap = true := by
  refine ⟨(t.reverse.takeWhile isBlank).reverse, ?_, ?_⟩
  · rw [trimEnd, dropEndWhile, ← List.reverse_append, List.takeWhile_append_dropWhile,
      List.reverse_reverse]
  · rw [isWhite, List.all_reverse]
    exact List.all_takeWhile

theorem exists_trim (t : Text) :
    ∃ front back, t = front ++ (trim t ++ back) ∧ isWhite front = true ∧ isWhite back = true := by
  obtain ⟨back, hback, hwhite⟩ := exists_trimEnd (trimStart t)
  refine ⟨t.takeWhile isBlank, back, ?_, List.all_takeWhile, hwhite⟩
  rw [trim, ← hback, trimStart, List.takeWhile_append_dropWhile]

theorem isWhite_iff_trim : isWhite t = true ↔ trim t = [] := by
  constructor
  · intro h
    have htrim := trim_append_of_isWhite h []
    rwa [List.nil_append] at htrim
  · intro h
    obtain ⟨front, back, ht, hfront, hback⟩ := exists_trim t
    rw [ht, h, List.nil_append, isWhite, List.all_append, ← isWhite, ← isWhite, hfront, hback]
    rfl

theorem trim_append_gap (hgap : isWhite gap = true) (t : Text) : trim (gap ++ t) = trim t := by
  rw [trim, trimStart_append_of_isWhite hgap, ← trim]

/-- White space stands neither before nor behind the text. -/
def Trimmed (line : Text) : Prop := trim line = line

namespace Trimmed

theorem isBlank_head (h : Trimmed line) : ∀ c, line.head? = some c → isBlank c = false := by
  intro c hc
  obtain ⟨rest, rfl⟩ := List.head?_eq_some_iff.mp hc
  obtain ⟨gap, hgap, -⟩ := exists_trimEnd (trimStart (c :: rest))
  rw [← trim, h] at hgap
  have hstop := List.head?_dropWhile_not isBlank (c :: rest)
  rwa [← trimStart, hgap] at hstop

theorem isBlank_last (h : Trimmed line) : ∀ c, line.getLast? = some c → isBlank c = false := by
  intro c hc
  have hstop := List.head?_dropWhile_not isBlank (trimStart line).reverse
  rw [← h, trim, trimEnd, dropEndWhile, List.getLast?_reverse] at hc
  rwa [hc] at hstop

theorem prefix_trim (h : Trimmed line) (hgap : isWhite gap = true) (t : Text) :
    line <+: trim (gap ++ (line ++ t)) := by
  rw [trim_append_gap hgap]
  rcases line.eq_nil_or_concat' with rfl | ⟨s, c, rfl⟩
  · exact List.nil_prefix
  · have hlast : isBlank c = false := h.isBlank_last c (by simp)
    have hstart : trimStart (s ++ [c] ++ t) = s ++ [c] ++ t := by
      refine trimStart_eq_self ?_
      rw [List.head?_append_of_ne_nil _ (by simp)]
      exact h.isBlank_head
    rw [trim, hstart, List.append_assoc, List.singleton_append, trimEnd,
      dropEndWhile_append_cons hlast]
    exact ⟨dropEndWhile isBlank t, by simp⟩

theorem suffix_trim (h : Trimmed line) (hgap : isWhite gap = true) (t : Text) :
    line <:+ trim (t ++ (line ++ gap)) := by
  rw [← List.append_assoc, trim_append_of_isWhite hgap]
  by_cases hne : line = []
  · exact hne ▸ List.nil_suffix
  have hstart : ∃ front, trimStart (t ++ line) = front ++ line := by
    rw [trimStart, List.dropWhile_append]
    split
    · exact ⟨[], trimStart_eq_self h.isBlank_head⟩
    · exact ⟨_, rfl⟩
  obtain ⟨front, hfront⟩ := hstart
  have hend : trimEnd (front ++ line) = front ++ line := by
    refine trimEnd_eq_self ?_
    rw [List.getLast?_append_of_ne_nil _ hne]
    exact h.isBlank_last
  rw [trim, hfront, hend]
  exact List.suffix_append _ _

theorem trim_between (h : Trimmed line) {front back : Text} (hfront : isWhite front = true)
    (hback : isWhite back = true) : trim (front ++ (line ++ back)) = line := by
  rw [trim_append_gap hfront, trim_append_of_isWhite hback, h]

end Trimmed

end Text

namespace Header

variable {t line row : Text} {notice rows block kept : List Text}

/-! ## Rows -/

/-- The lines of a text without the white space around them. -/
def linesOf (t : Text) : List Text := (Text.lines t).map Text.trim

/-- The lines of a text without the white space around them, and the empty one behind its last
newline. -/
def rowsOf (t : Text) : List Text :=
  if t.getLast?.all (· == '\n') then linesOf t ++ [[]] else linesOf t

theorem trim_dropTerminator (piece : Text) :
    Text.trim (Text.dropTerminator piece) = Text.trim piece := by
  obtain ⟨terminator, hterminator, hpiece⟩ := Text.exists_terminator piece
  have hwhite : Text.isWhite terminator = true := by
    simp only [List.mem_cons, List.not_mem_nil, or_false] at hterminator
    rcases hterminator with rfl | rfl | rfl <;> decide
  conv_rhs => rw [hpiece, Text.trim_append_of_isWhite hwhite]

theorem rowsOf_append_newline (h : '\n' ∉ line) (t : Text) :
    rowsOf (line ++ '\n' :: t) = Text.trim line :: rowsOf t := by
  have hlines : linesOf (line ++ '\n' :: t) = Text.trim line :: linesOf t := by
    rw [linesOf, Text.lines_cons h, List.map_cons, trim_dropTerminator,
      Text.trim_append_of_isWhite (by decide), linesOf]
  have hlast : (line ++ '\n' :: t).getLast?.all (· == '\n') = t.getLast?.all (· == '\n') := by
    rcases t.eq_nil_or_concat' with rfl | ⟨s, c, rfl⟩
    · rw [List.getLast?_concat]
      rfl
    · rw [← List.cons_append, ← List.append_assoc, List.getLast?_concat, List.getLast?_concat]
  rw [rowsOf, rowsOf, hlines, hlast]
  split <;> rfl

theorem rowsOf_of_not_mem (h : '\n' ∉ line) : rowsOf line = [Text.trim line] := by
  rw [rowsOf, linesOf, Text.lines_of_not_mem h]
  rcases line.eq_nil_or_concat' with rfl | ⟨s, c, rfl⟩
  · rfl
  · have hc : c ≠ '\n' := by
      rintro rfl
      simp at h
    simp [hc]

theorem exists_row (h : rowsOf t = row :: rows) : ∃ line, '\n' ∉ line ∧ Text.trim line = row ∧
    (rows = [] ∧ t = line ∨ ∃ rest, t = line ++ '\n' :: rest ∧ rowsOf rest = rows) := by
  by_cases hnewline : '\n' ∈ t
  · obtain ⟨line, rest, rfl, hline⟩ := List.eq_append_cons_of_mem hnewline
    rw [rowsOf_append_newline hline, List.cons.injEq] at h
    exact ⟨line, hline, h.1, .inr ⟨rest, rfl, h.2⟩⟩
  · rw [rowsOf_of_not_mem hnewline, List.cons.injEq] at h
    exact ⟨t, hnewline, h.1, .inl ⟨h.2.symm, rfl⟩⟩

theorem exists_row_of_ne_nil (h : rowsOf t = row :: rows) (hrows : rows ≠ []) :
    ∃ line rest, '\n' ∉ line ∧ Text.trim line = row ∧ t = line ++ '\n' :: rest ∧
      rowsOf rest = rows := by
  obtain ⟨line, hline, hrow, ⟨hnil, -⟩ | ⟨rest, ht, hrest⟩⟩ := exists_row h
  · exact absurd hnil hrows
  · exact ⟨line, rest, hline, hrow, ht, hrest⟩

theorem exists_rowsOf_append (h : '\n' ∉ line) (front : Text) :
    ∃ above start, ∀ t, rowsOf (front ++ (line ++ '\n' :: t)) =
      above ++ Text.trim (start ++ line) :: rowsOf t := by
  induction hlength : front.length using Nat.strong_induction_on generalizing front with
  | _ n ih =>
      by_cases hnewline : '\n' ∈ front
      · obtain ⟨first, rest, rfl, hfirst⟩ := List.eq_append_cons_of_mem hnewline
        obtain ⟨above, start, hrows⟩ := ih rest.length (by simp at hlength; omega) rest rfl
        refine ⟨Text.trim first :: above, start, fun t => ?_⟩
        rw [List.append_assoc, List.cons_append, rowsOf_append_newline hfirst, hrows]
        rfl
      · refine ⟨[], front, fun t => ?_⟩
        have hwhole : '\n' ∉ front ++ line := by simp [hnewline, h]
        rw [← List.append_assoc, rowsOf_append_newline hwhole]
        rfl

/-- Where a row stands that others follow. -/
theorem exists_of_rowsOf_eq {above : List Text} (h : rowsOf t = above ++ row :: rows)
    (hrows : rows ≠ []) : ∃ front line rest, '\n' ∉ line ∧ Text.trim line = row ∧
      t = front ++ (line ++ '\n' :: rest) ∧ rowsOf rest = rows := by
  induction above generalizing t with
  | nil =>
      obtain ⟨line, rest, hline, hrow, ht, hrest⟩ := exists_row_of_ne_nil h hrows
      exact ⟨[], line, rest, hline, hrow, ht, hrest⟩
  | cons first above ih =>
      obtain ⟨start, tail, -, -, rfl, htail⟩ := exists_row_of_ne_nil h (by simp)
      obtain ⟨front, line, rest, hline, hrow, rfl, hrest⟩ := ih htail
      exact ⟨start ++ '\n' :: front, line, rest, hline, hrow, by simp, hrest⟩

/-! ## The notice in the rows -/

/-- The lines of a notice but the first, one row for each. The last one may go on. -/
inductive Continues : (notice rows : List Text) → Prop where
  | last {line row : Text} (h : line <+: row) : Continues [line] [row]
  | next {line : Text} {notice rows : List Text} (h : Continues notice rows) :
      Continues (line :: notice) (line :: rows)

/-- The rows are the lines of a notice. Something may stand before the first and behind the last. -/
inductive Shows : (notice rows : List Text) → Prop where
  | intro {line row : Text} {notice rows : List Text} (hfirst : line <:+ row)
      (h : Continues notice rows) : Shows (line :: notice) (row :: rows)

/-- Some of the empty rows are left out. -/
inductive Thins : (rows kept : List Text) → Prop where
  | nil : Thins [] []
  | keep {row : Text} {rows kept : List Text} (h : Thins rows kept) :
      Thins (row :: rows) (row :: kept)
  | drop {rows kept : List Text} (h : Thins rows kept) : Thins ([] :: rows) kept

theorem Continues.ne_nil (h : Continues notice rows) : notice ≠ [] ∧ rows ≠ [] := by
  cases h <;> exact ⟨List.cons_ne_nil _ _, List.cons_ne_nil _ _⟩

theorem Thins.ne_nil (h : Thins rows kept) (hkept : kept ≠ []) : rows ≠ [] := by
  cases h with
  | nil => exact hkept
  | keep | drop => exact List.cons_ne_nil _ _

/-- The rows of a text start with the rest of a notice, when empty ones are left out. -/
def Resumes (notice : List Text) (t : Text) : Prop :=
  ∃ block kept, block <+: rowsOf t ∧ Thins block kept ∧ Continues notice kept

/-- A line of a notice: one line, without white space around it. -/
structure IsNoticeLine (line : Text) : Prop where
  oneLine : '\n' ∉ line
  trimmed : line.Trimmed

/-! ## The search -/

theorem afterBreak_iff {next : Text → Bool} {broken : Bool} : afterBreak next broken t = true ↔
    ∃ gap rest, t = gap ++ rest ∧ Text.isWhite gap = true ∧ (broken = true ∨ '\n' ∈ gap) ∧
      next rest = true := by
  induction t generalizing broken with
  | nil => simp [afterBreak, Text.isWhite]
  | cons c t ih =>
      rw [afterBreak, Bool.or_eq_true, Bool.and_eq_true, Bool.and_eq_true, ih, Bool.or_eq_true,
        beq_iff_eq]
      constructor
      · rintro (⟨hbroken, hnext⟩ | ⟨hc, gap, rest, rfl, hgap, hbreak, hnext⟩)
        · exact ⟨[], c :: t, rfl, rfl, .inl hbroken, hnext⟩
        · refine ⟨c :: gap, rest, rfl, ?_, ?_, hnext⟩
          · rw [Text.isWhite, List.all_cons, hc, ← Text.isWhite, hgap]
            rfl
          · grind
      · rintro ⟨_ | ⟨d, gap⟩, rest, ht, hgap, hbreak, hnext⟩
        · obtain rfl : c :: t = rest := ht
          exact .inl ⟨hbreak.resolve_right List.not_mem_nil, hnext⟩
        · obtain ⟨rfl, rfl⟩ := List.cons.inj ht
          rw [Text.isWhite, List.all_cons, Bool.and_eq_true] at hgap
          exact .inr ⟨hgap.1, gap, rest, rfl, hgap.2, by grind, hnext⟩

theorem startsWithLines_singleton : startsWithLines [line] t = true ↔ line <+: t :=
  Text.startsWith_iff

theorem startsWithLines_cons (hnotice : notice ≠ []) :
    startsWithLines (line :: notice) t = true ↔
      ∃ gap rest, t = line ++ (gap ++ rest) ∧ Text.isWhite gap = true ∧ '\n' ∈ gap ∧
        startsWithLines notice rest = true := by
  obtain ⟨second, notice, rfl⟩ := List.exists_cons_of_ne_nil hnotice
  simp only [startsWithLines]
  split
  case h_1 behind hbehind =>
    obtain rfl := Text.after?_eq_some_iff.mp hbehind
    rw [afterBreak_iff]
    simp
  case h_2 hnone =>
    constructor
    · intro h
      cases h
    · rintro ⟨gap, rest, rfl, -⟩
      rw [Text.after?_eq_some_iff.mpr rfl] at hnone
      cases hnone

theorem somewhere_iff {p : Text → Bool} :
    somewhere p t = true ↔ ∃ front back, t = front ++ back ∧ p back = true := by
  induction t with
  | nil => simp [somewhere]
  | cons c t ih =>
      rw [somewhere, Bool.or_eq_true, ih]
      constructor
      · rintro (h | ⟨front, back, rfl, h⟩)
        · exact ⟨[], c :: t, rfl, h⟩
        · exact ⟨c :: front, back, rfl, h⟩
      · rintro ⟨_ | ⟨d, front⟩, back, ht, h⟩
        · obtain rfl : c :: t = back := ht
          exact .inl h
        · obtain ⟨rfl, rfl⟩ := List.cons.inj ht
          exact .inr ⟨front, back, rfl, h⟩

theorem Resumes.blank {gap : Text} (hgap : Text.isWhite gap = true) (hline : '\n' ∉ gap)
    (h : Resumes notice t) : Resumes notice (gap ++ '\n' :: t) := by
  obtain ⟨block, kept, hblock, hthins, hcontinues⟩ := h
  refine ⟨[] :: block, kept, ?_, .drop hthins, hcontinues⟩
  rw [rowsOf_append_newline hline, Text.isWhite_iff_trim.mp hgap]
  exact List.cons_prefix_cons.mpr ⟨rfl, hblock⟩

theorem Resumes.next {front back : Text} (hline : IsNoticeLine line)
    (hfront : Text.isWhite front = true) (hfront' : '\n' ∉ front)
    (hback : Text.isWhite back = true) (hback' : '\n' ∉ back) (h : Resumes notice t) :
    Resumes (line :: notice) (front ++ (line ++ back) ++ '\n' :: t) := by
  obtain ⟨block, kept, hblock, hthins, hcontinues⟩ := h
  refine ⟨line :: block, line :: kept, ?_, .keep hthins, .next hcontinues⟩
  have hwhole : '\n' ∉ front ++ (line ++ back) := by simp [hfront', hline.oneLine, hback']
  rw [rowsOf_append_newline hwhole, hline.trimmed.trim_between hfront hback]
  exact List.cons_prefix_cons.mpr ⟨rfl, hblock⟩

theorem Resumes.last {gap : Text} (hline : IsNoticeLine line) (hgap : Text.isWhite gap = true)
    (hgap' : '\n' ∉ gap) (t : Text) : Resumes [line] (gap ++ (line ++ t)) := by
  obtain ⟨start, hstart⟩ : ∃ start rows, rowsOf (gap ++ (line ++ t)) =
      Text.trim (gap ++ (line ++ start)) :: rows := by
    by_cases hnewline : '\n' ∈ t
    · obtain ⟨start, rest, rfl, hstart⟩ := List.eq_append_cons_of_mem hnewline
      have hwhole : '\n' ∉ gap ++ (line ++ start) := by simp [hgap', hline.oneLine, hstart]
      have hrows := rowsOf_append_newline hwhole rest
      rw [List.append_assoc, List.append_assoc] at hrows
      exact ⟨start, _, hrows⟩
    · have hwhole : '\n' ∉ gap ++ (line ++ t) := by simp [hgap', hline.oneLine, hnewline]
      exact ⟨t, _, rowsOf_of_not_mem hwhole⟩
  obtain ⟨rows, hrows⟩ := hstart
  refine ⟨[_], [_], ?_, .keep .nil, .last (hline.trimmed.prefix_trim hgap start)⟩
  rw [hrows]
  exact List.cons_prefix_cons.mpr ⟨rfl, List.nil_prefix⟩

/-- Behind white space the lines of a notice stand in the rows, with empty rows between them. -/
theorem resumes_of_startsWithLines (hnotice : notice ≠ [])
    (hlines : ∀ line ∈ notice, IsNoticeLine line) {gap rest : Text}
    (hgap : Text.isWhite gap = true) (h : startsWithLines notice rest = true) :
    Resumes notice (gap ++ rest) := by
  induction hlength : (gap ++ rest).length using Nat.strong_induction_on
    generalizing notice gap rest with
  | _ n ih =>
      by_cases hnewline : '\n' ∈ gap
      · obtain ⟨front, back, rfl, hfront', hfront, hback⟩ := Text.exists_break hgap hnewline
        have hrest :=
          ih (back ++ rest).length (by simp at hlength ⊢; omega) hnotice hlines hback h rfl
        rw [List.append_assoc, List.cons_append]
        exact hrest.blank hfront hfront'
      obtain ⟨line, notice, rfl⟩ := List.exists_cons_of_ne_nil hnotice
      obtain ⟨hline, hlines⟩ := List.forall_mem_cons.mp hlines
      by_cases hlast : notice = []
      · subst hlast
        obtain ⟨t, rfl⟩ := startsWithLines_singleton.mp h
        exact .last hline hgap hnewline t
      · obtain ⟨inner, rest, rfl, hinner, hbreak, hnext⟩ := (startsWithLines_cons hlast).mp h
        obtain ⟨front, back, rfl, hfront', hfront, hback⟩ := Text.exists_break hinner hbreak
        have hrest :=
          ih (back ++ rest).length (by simp at hlength ⊢; omega) hlast hlines hback hnext rfl
        have hresumes := hrest.next hline hgap hnewline hfront hfront'
        simpa using hresumes

theorem Thins.exists_startsWithLines (h : Thins block kept) (hnotice : Continues notice kept)
    (hblock : block <+: rowsOf t) : ∃ gap rest, t = gap ++ rest ∧ Text.isWhite gap = true ∧
      startsWithLines notice rest = true := by
  induction h generalizing notice t with
  | nil => exact absurd rfl hnotice.ne_nil.2
  | @keep row block kept hthins ih =>
      obtain ⟨below, hbelow⟩ := hblock
      rw [List.cons_append] at hbelow
      cases hnotice with
      | last hprefix =>
          obtain ⟨line, -, rfl, hline⟩ := exists_row hbelow.symm
          obtain ⟨tail, rfl⟩ : ∃ tail, t = line ++ tail := by
            rcases hline with ⟨-, rfl⟩ | ⟨rest, rfl, -⟩
            · exact ⟨[], (List.append_nil _).symm⟩
            · exact ⟨_, rfl⟩
          obtain ⟨front, back, hsplit, hfront, -⟩ := Text.exists_trim line
          refine ⟨front, Text.trim line ++ back ++ tail, ?_, hfront, ?_⟩
          · rw [← List.append_assoc, ← hsplit]
          · rw [startsWithLines_singleton, List.append_assoc]
            exact hprefix.trans (List.prefix_append _ _)
      | next hnotice =>
          have hne : block ++ below ≠ [] := List.append_ne_nil_of_left_ne_nil
            (hthins.ne_nil hnotice.ne_nil.2) _
          obtain ⟨line, tail, -, rfl, rfl, htail⟩ := exists_row_of_ne_nil hbelow.symm hne
          obtain ⟨gap, rest, rfl, hgap, hrest⟩ := ih hnotice ⟨below, htail.symm⟩
          obtain ⟨front, back, hsplit, hfront, hback⟩ := Text.exists_trim line
          refine ⟨front, Text.trim line ++ ((back ++ '\n' :: gap) ++ rest), ?_, hfront, ?_⟩
          · conv_lhs => rw [hsplit]
            simp
          · rw [startsWithLines_cons hnotice.ne_nil.1]
            exact ⟨_, rest, rfl, Text.isWhite_break hback hgap, by simp, hrest⟩
  | @drop block kept hthins ih =>
      obtain ⟨below, hbelow⟩ := hblock
      rw [List.cons_append] at hbelow
      have hne : block ++ below ≠ [] := List.append_ne_nil_of_left_ne_nil
        (hthins.ne_nil hnotice.ne_nil.2) _
      obtain ⟨line, tail, -, hline, rfl, htail⟩ := exists_row_of_ne_nil hbelow.symm hne
      obtain ⟨gap, rest, rfl, hgap, hrest⟩ := ih hnotice ⟨below, htail.symm⟩
      have hwhite := Text.isWhite_break (Text.isWhite_iff_trim.mpr hline) hgap
      exact ⟨line ++ '\n' :: gap, rest, by simp, hwhite, hrest⟩

theorem Thins.exists_cons {row : Text} (h : Thins block (row :: kept)) :
    ∃ above below, block = above ++ row :: below ∧ Thins below kept := by
  induction block with
  | nil => cases h
  | cons first block ih =>
      cases h with
      | keep h => exact ⟨[], block, rfl, h⟩
      | drop h =>
          obtain ⟨above, below, rfl, hbelow⟩ := ih h
          exact ⟨[] :: above, below, rfl, hbelow⟩

theorem hasNotice_cons (hnotice : notice ≠ []) : hasNotice (line :: notice) t = true ↔
    ∃ front gap rest, t = front ++ (line ++ (gap ++ rest)) ∧ Text.isWhite gap = true ∧
      '\n' ∈ gap ∧ startsWithLines notice rest = true := by
  rw [hasNotice, somewhere_iff]
  constructor
  · rintro ⟨front, back, rfl, h⟩
    obtain ⟨gap, rest, rfl, hgap⟩ := (startsWithLines_cons hnotice).mp h
    exact ⟨front, gap, rest, rfl, hgap⟩
  · rintro ⟨front, gap, rest, rfl, hgap⟩
    exact ⟨front, _, rfl, (startsWithLines_cons hnotice).mpr ⟨gap, rest, rfl, hgap⟩⟩

theorem shows_of_hasNotice (hnotice : notice ≠ []) (hline : IsNoticeLine line)
    (hlines : ∀ line ∈ notice, IsNoticeLine line) (h : hasNotice (line :: notice) t = true) :
    ∃ block kept, block <:+: rowsOf t ∧ Thins block kept ∧ Shows (line :: notice) kept := by
  obtain ⟨front, gap, rest, rfl, hgap, hbreak, hrest⟩ := (hasNotice_cons hnotice).mp h
  obtain ⟨inner, behind, rfl, hinner', hinner, hbehind⟩ := Text.exists_break hgap hbreak
  have hwhole : '\n' ∉ line ++ inner := by simp [hline.oneLine, hinner']
  obtain ⟨above, start, hrows⟩ := exists_rowsOf_append hwhole front
  have hrows := hrows (behind ++ rest)
  obtain ⟨block, kept, ⟨below, hbelow⟩, hthins, hcontinues⟩ :=
    resumes_of_startsWithLines hnotice hlines hbehind hrest
  refine ⟨_ :: block, _ :: kept, ⟨above, below, ?_⟩, .keep hthins,
    .intro (hline.trimmed.suffix_trim hinner start) hcontinues⟩
  simpa [← hbelow] using hrows.symm

theorem hasNotice_of_shows (hblock : block <:+: rowsOf t) (hthins : Thins block kept)
    (h : Shows notice kept) : hasNotice notice t = true := by
  obtain ⟨above, below, hblock⟩ := hblock
  cases h with
  | @intro line row notice kept hfirst hcontinues =>
      obtain ⟨blank, block, rfl, hkept⟩ := hthins.exists_cons
      have hrows : rowsOf t = (above ++ blank) ++ row :: (block ++ below) := by simp [← hblock]
      have hne : block ++ below ≠ [] := List.append_ne_nil_of_left_ne_nil
        (hkept.ne_nil hcontinues.ne_nil.2) _
      obtain ⟨front, last, tail, -, hlast, rfl, htail⟩ := exists_of_rowsOf_eq hrows hne
      obtain ⟨gap, rest, rfl, hgap, hrest⟩ :=
        hkept.exists_startsWithLines hcontinues ⟨below, htail.symm⟩
      obtain ⟨lead, rfl⟩ := hfirst
      obtain ⟨before, behind, hsplit, -, hbehind⟩ := Text.exists_trim last
      rw [hlast] at hsplit
      refine (hasNotice_cons hcontinues.ne_nil.1).mpr ⟨front ++ (before ++ lead),
        behind ++ '\n' :: gap, rest, ?_, Text.isWhite_break hbehind hgap,
        by simp, hrest⟩
      rw [hsplit]
      simp

theorem mem_emissions_iff (site : Site) (lib : Library) :
    (∃ e ∈ ((checker notice).enter site lib).emissions, e.message = missingCopyright.code) ↔
      hasNotice notice site.home.source = false := by
  have hcode : missingTestReference.code ≠ missingCopyright.code := by decide
  simp only [checker, Visit.emitting, List.mem_map, exists_exists_and_eq_and, Emission.about,
    exists_eq_right]
  rw [findings, List.mem_append]
  cases hasNotice notice site.home.source with
  | false => simp
  | true =>
      rw [if_pos rfl]
      split <;> simp [hcode.symm]

/-- A module of which nothing is reported for a missing notice carries the notice: some of its lines
that follow each other are those of the notice, when empty ones are left out and white space around
them does not count, nor does what stands before the first and behind the last. A newline at the end
of the source stands for one empty line more. -/
theorem enter_acceptsNotice (hlength : 2 ≤ notice.length)
    (hlines : ∀ line ∈ notice, IsNoticeLine line) (site : Site) (lib : Library) :
    (∀ e ∈ ((checker notice).enter site lib).emissions, e.message ≠ missingCopyright.code) ↔
      ∃ block kept, block <:+: rowsOf site.home.source ∧ Thins block kept ∧ Shows notice kept := by
  have haccepts : (∀ e ∈ ((checker notice).enter site lib).emissions,
      e.message ≠ missingCopyright.code) ↔ hasNotice notice site.home.source = true := by
    rw [← Bool.not_eq_false, ← mem_emissions_iff site lib, not_exists]
    exact forall_congr' fun e => not_and.symm
  rw [haccepts]
  constructor
  · intro h
    obtain ⟨line, notice, rfl⟩ : ∃ line rest, notice = line :: rest :=
      List.exists_cons_of_length_pos (by omega)
    have hnotice : notice ≠ [] := by
      rintro rfl
      simp at hlength
    obtain ⟨hline, hlines⟩ := List.forall_mem_cons.mp hlines
    exact shows_of_hasNotice hnotice hline hlines h
  · rintro ⟨block, kept, hblock, hthins, hshows⟩
    exact hasNotice_of_shows hblock hthins hshows

/-- Two lines of a notice. -/
def shortNotice : List Text := ["# A".toList, "# B".toList]

/-- A visit to the module node of a source. -/
def visitOf (source : Text) : Site where
  file := ⟨.ofString "m.py", source, "m", .ofString "m.py"⟩
  home := ⟨"m", .ofString "m.py", source, false, #[⟨.root none, ⟨1, 0⟩, none, []⟩]⟩
  lines := scan source
  node := Module.root
  attempted := []

/-- The notice with a blank line between its lines. -/
def parted : Text := "# A\n\n# B\n".toList

theorem isNoticeLine_shortNotice : ∀ line ∈ shortNotice, IsNoticeLine line := by
  have h : ∀ line ∈ shortNotice, '\n' ∉ line ∧ Text.trim line = line := by decide
  exact fun line hline => ⟨(h line hline).1, (h line hline).2⟩

theorem enter_acceptsNotice_parted :
    2 ≤ shortNotice.length ∧ (∀ line ∈ shortNotice, IsNoticeLine line) ∧
      ∃ block kept, block <:+: rowsOf parted ∧ Thins block kept ∧ Shows shortNotice kept := by
  refine ⟨by decide, isNoticeLine_shortNotice, ?_⟩
  exact (enter_acceptsNotice (by decide) isNoticeLine_shortNotice (visitOf parted) default).mp
    (by decide)

/-- Nothing is reported, but no two lines of the source that follow each other are the notice. -/
theorem enter_acceptsParted :
    (∀ e ∈ ((checker shortNotice).enter (visitOf parted) default).emissions,
      e.message ≠ missingCopyright.code) ∧
      ¬ ∃ block, block <:+: linesOf parted ∧ Shows shortNotice block := by
  refine ⟨by decide, ?_⟩
  rintro ⟨block, ⟨above, below, hblock⟩, ⟨hfirst, hcontinues⟩⟩
  have hlines : linesOf parted = ["# A".toList, [], "# B".toList] := by decide
  rw [hlines] at hblock
  cases hcontinues with
  | last hlast =>
      -- The two lines are the first and the empty one, or the empty one and the last.
      obtain _ | ⟨a, _ | ⟨b, above⟩⟩ := above
      · simp only [List.nil_append, List.cons_append, List.cons.injEq] at hblock
        rw [hblock.2.1, List.prefix_nil] at hlast
        exact absurd hlast (by decide)
      · simp only [List.nil_append, List.cons_append, List.cons.injEq] at hblock
        rw [hblock.2.1, List.suffix_nil] at hfirst
        exact absurd hfirst (by decide)
      · have hlength := congrArg List.length hblock
        simp at hlength
        omega
  | next h => cases h

end Header

end CodingStandard
