import CodingStandard.Proofs.Offsets

namespace CodingStandard

/-!
# Lines and their terminators

A text is a row of lines, each with the newline that ends it and the carriage return before that.
Offsets are summed up over the lines with their terminators, and lengths are those of the lines
without them. The two agree: an offset and a length cut the line out of the bytes of the text.
-/

namespace Text

/-- A line and what ends it. -/
structure Row where
  line : Text
  terminator : Text
  deriving DecidableEq, Repr

namespace Row

def text (r : Row) : Text := r.line ++ r.terminator

/-- A newline ends the line, and a carriage return before the newline belongs to the terminator. -/
inductive Ended : Row → Prop where
  | newline {line : Text} (hline : '\n' ∉ line) (hreturn : line.getLast? ≠ some '\r') :
      Ended ⟨line, ['\n']⟩
  | returned {line : Text} (hline : '\n' ∉ line) : Ended ⟨line, ['\r', '\n']⟩

end Row

/-- The rows of a text. Behind the last newline there may stand a line without terminator. -/
inductive Divides : List Row → Text → Prop where
  | empty : Divides [] []
  | last {line : Text} (hline : '\n' ∉ line) (hne : line ≠ []) : Divides [⟨line, []⟩] line
  | row {r : Row} {rows : List Row} {t : Text} (hrow : r.Ended) (hrest : Divides rows t) :
      Divides (r :: rows) (r.text ++ t)

variable {t : Text} {rows : List Row} {r : Row} {i : Nat}

theorem exists_ended {line : Text} (hline : '\n' ∉ line) :
    ∃ r : Row, r.Ended ∧ r.text = line ++ ['\n'] := by
  by_cases hreturn : line.getLast? = some '\r'
  · obtain ⟨front, rfl⟩ := List.getLast?_eq_some_iff.mp hreturn
    have hfront : '\n' ∉ front := fun hmem => hline (List.mem_append_left _ hmem)
    exact ⟨⟨front, ['\r', '\n']⟩, .returned hfront, by simp [Row.text]⟩
  · exact ⟨⟨line, ['\n']⟩, .newline hline hreturn, rfl⟩

theorem exists_divides (t : Text) : ∃ rows, Divides rows t := by
  induction hlength : t.length using Nat.strong_induction_on generalizing t with
  | _ n ih =>
      by_cases hnewline : '\n' ∈ t
      · obtain ⟨line, rest, rfl, hline⟩ := List.eq_append_cons_of_mem hnewline
        obtain ⟨rows, hrows⟩ := ih rest.length (by simp at hlength; omega) rest rfl
        obtain ⟨r, hended, htext⟩ := exists_ended hline
        rw [List.append_cons, ← htext]
        exact ⟨r :: rows, .row hended hrows⟩
      · by_cases hne : t = []
        · exact ⟨[], hne ▸ .empty⟩
        · exact ⟨_, .last hnewline hne⟩

theorem Row.Ended.exists_text (h : r.Ended) :
    ∃ front, r.text = front ++ ['\n'] ∧ '\n' ∉ front ∧ dropTerminator r.text = r.line := by
  cases h with
  | @newline line hline hreturn =>
      refine ⟨line, rfl, hline, ?_⟩
      have hnewline : before? ['\n'] (line ++ ['\n']) = some line :=
        before?_eq_some_iff.mpr rfl
      rw [text, dropTerminator, hnewline]
      dsimp only
      rw [before?_eq_none hreturn, Option.getD_none]
  | @returned line hline =>
      refine ⟨line ++ ['\r'], by simp [text], by simp [hline], ?_⟩
      have hnewline : before? ['\n'] (line ++ ['\r', '\n']) = some (line ++ ['\r']) :=
        before?_eq_some_iff.mpr (by simp)
      rw [text, dropTerminator, hnewline]
      dsimp only
      rw [before?_eq_some_iff.mpr rfl, Option.getD_some]

theorem Divides.flatMap_text (h : Divides rows t) : rows.flatMap Row.text = t := by
  induction h with
  | empty => rfl
  | last => simp [Row.text]
  | row _ _ ih => rw [List.flatMap_cons, ih]

theorem Divides.pieces_eq (h : Divides rows t) : pieces t = rows.map Row.text := by
  induction h with
  | empty => rfl
  | last hline hne => simp [pieces_of_not_mem hline, hne, Row.text]
  | row hrow _ ih =>
      obtain ⟨front, htext, hfront, -⟩ := hrow.exists_text
      rw [htext, List.append_assoc, List.singleton_append, pieces_append_newline hfront, ih,
        List.map_cons, htext]

theorem Divides.lines_eq (h : Divides rows t) : lines t = rows.map Row.line := by
  rw [lines, h.pieces_eq, List.map_map]
  induction h with
  | empty => rfl
  | last hline =>
      rw [List.map_singleton, List.map_singleton, Function.comp_apply, Row.text, List.append_nil,
        dropTerminator_of_not_mem hline]
  | row hrow _ ih =>
      obtain ⟨-, -, -, hdrop⟩ := hrow.exists_text
      rw [List.map_cons, List.map_cons, ih, Function.comp_apply, hdrop]

/-! ## Bytes -/

/-- The bytes of a text in UTF-8. -/
def bytes (t : Text) : List UInt8 := t.flatMap String.utf8EncodeChar

@[simp] theorem bytes_append (s t : Text) : bytes (s ++ t) = bytes s ++ bytes t :=
  List.flatMap_append

@[simp] theorem length_bytes (t : Text) : (bytes t).length = byteLength t := by
  induction t with
  | nil => rfl
  | cons c t ih =>
      rw [← List.singleton_append, bytes_append, List.length_append, ih, byteLength_append]
      simp [bytes]

theorem offsetIn_succ {ps : List Text} (start : Nat) (h : i < ps.length) :
    offsetIn start (i + 1) 1 ps = start + byteLength (ps.take i).flatten := by
  induction ps generalizing start i with
  | nil => exact absurd h (Nat.not_lt_zero i)
  | cons piece ps ih =>
      cases i with
      | zero => simp [offsetIn]
      | succ i =>
          rw [offsetIn, ih _ (Nat.lt_of_succ_lt_succ h), List.take_succ_cons, List.flatten_cons,
            byteLength_append, Nat.add_assoc]

theorem Divides.offsetAt_succ (h : Divides rows t) (hi : i < rows.length) :
    offsetAt t (i + 1) 1 = byteLength ((rows.take i).flatMap Row.text) := by
  rw [offsetAt, h.pieces_eq, offsetIn_succ 0 (by simpa using hi), Nat.zero_add, ← List.map_take,
    List.flatMap_def]

theorem Divides.lineLength_succ (h : Divides rows t) (hr : rows[i]? = some r) :
    lineLength t (i + 1) = byteLength r.line := by
  refine lineLength_eq (Nat.succ_pos i) ?_
  rw [h.lines_eq, Nat.add_sub_cancel, List.getElem?_map, hr, Option.map_some]

theorem Divides.slice (h : Divides rows t) (hr : rows[i]? = some r) :
    ((bytes t).drop (offsetAt t (i + 1) 1)).take (lineLength t (i + 1)) = bytes r.line := by
  obtain ⟨hi, rfl⟩ := List.getElem?_eq_some_iff.mp hr
  have hrows : rows.flatMap Row.text = (rows.take i).flatMap Row.text ++
      (rows[i].line ++ (rows[i].terminator ++ (rows.drop (i + 1)).flatMap Row.text)) := by
    rw [← List.append_assoc (rows[i].line), ← Row.text, ← List.flatMap_cons,
      ← List.drop_eq_getElem_cons hi, ← List.flatMap_append, List.take_append_drop]
  have hsplit : bytes t = bytes ((rows.take i).flatMap Row.text) ++ (bytes rows[i].line ++
      (bytes rows[i].terminator ++ bytes ((rows.drop (i + 1)).flatMap Row.text))) := by
    rw [← h.flatMap_text, hrows, bytes_append, bytes_append, bytes_append]
  rw [h.lineLength_succ hr, h.offsetAt_succ hi, hsplit, ← length_bytes, ← length_bytes,
    List.drop_left, List.take_left]

theorem Divides.offsetAt_next (h : Divides rows t) (hr : rows[i]? = some r)
    (hnext : i + 1 < rows.length) : offsetAt t (i + 1 + 1) 1 =
      offsetAt t (i + 1) 1 + lineLength t (i + 1) + byteLength r.terminator := by
  obtain ⟨hi, rfl⟩ := List.getElem?_eq_some_iff.mp hr
  rw [h.offsetAt_succ hnext, h.offsetAt_succ hi, h.lineLength_succ hr,
    List.take_succ_eq_append_getElem hi, List.flatMap_append, byteLength_append,
    List.flatMap_singleton, Row.text, byteLength_append, Nat.add_assoc]

theorem lineLength_of_lt {line : Nat} (h : (lines t).length < line) : lineLength t line = 0 := by
  obtain ⟨line, rfl⟩ := Nat.exists_eq_succ_of_ne_zero (Nat.ne_zero_of_lt h)
  rw [lineLength, List.getElem?_eq_none (Nat.le_of_lt_succ h)]
  rfl

theorem offsetAt_zero (t : Text) (column : Nat) : offsetAt t 0 column = 0 := by
  unfold offsetAt
  cases pieces t <;> rfl

/-- The offset and the length of a line cut the line out of the bytes of the text, without what
ends it. A column stands as far behind as it says, and the next line starts behind the terminator.
A number that no line has stands for nothing at the start of the text. -/
theorem offsetAt_locates (t : Text) :
    ∃ rows, Divides rows t ∧ rows.map Row.line = lines t ∧
      (∀ line r, 1 ≤ line → rows[line - 1]? = some r →
        ((bytes t).drop (offsetAt t line 1)).take (lineLength t line) = bytes r.line ∧
        (bytes r.line).length = lineLength t line ∧
        (∀ column, 1 ≤ column → offsetAt t line column = offsetAt t line 1 + (column - 1)) ∧
        (line < rows.length → offsetAt t (line + 1) 1 =
          offsetAt t line 1 + lineLength t line + (bytes r.terminator).length)) ∧
      ∀ line column, line = 0 ∨ rows.length < line →
        offsetAt t line column = 0 ∧ lineLength t line = 0 := by
  obtain ⟨rows, hrows⟩ := exists_divides t
  have hlength : rows.length = (lines t).length := by rw [hrows.lines_eq, List.length_map]
  refine ⟨rows, hrows, hrows.lines_eq.symm, fun line r hline hr => ?_, fun line column hline => ?_⟩
  · obtain ⟨i, rfl⟩ := Nat.exists_eq_succ_of_ne_zero (Nat.ne_zero_of_lt hline)
    rw [Nat.succ_sub_one] at hr
    have hi : i + 1 ≤ (lines t).length := hlength ▸ (List.getElem?_eq_some_iff.mp hr).1
    refine ⟨hrows.slice hr, ?_, fun column _ => offsetAt_eq hline hi column, fun hnext => ?_⟩
    · rw [length_bytes, Nat.succ_eq_add_one, hrows.lineLength_succ hr]
    · rw [length_bytes, Nat.succ_eq_add_one, hrows.offsetAt_next hr hnext]
  · rcases hline with rfl | hline
    · exact ⟨offsetAt_zero t column, rfl⟩
    · rw [hlength] at hline
      exact ⟨offsetAt_of_lt hline column, lineLength_of_lt hline⟩

-- A line of three bytes and its terminator of two stand before the second line.
example : offsetAt "aé\r\nb".toList 2 1 = 5 ∧ lineLength "aé\r\nb".toList 1 = 3 := by decide

/-- The only line of this text has a terminator, and no offset stands behind it. -/
theorem offsetAt_behindLast :
    Divides [⟨['a'], ['\n']⟩] ['a', '\n'] ∧
      offsetAt ['a', '\n'] (1 + 1) 1 ≠ offsetAt ['a', '\n'] 1 1 + lineLength ['a', '\n'] 1 + 1 :=
  ⟨.row (.newline (by decide) (by decide)) .empty, by decide⟩

end Text

end CodingStandard
