import CodingStandard.Checker.Docstring.Markup
import CodingStandard.Proofs.DottedName
import CodingStandard.Proofs.Offsets

namespace CodingStandard

/-!
# The fields in a text

A field is spelled by a tag, perhaps a name, and a colon, with white space between them. The scans
of a text find exactly the fields that are spelled in it, and the first field that opens a line is
found by looking at the lines one by one.
-/

namespace Text

theorem isWhite_iff {t : Text} : isWhite t = true ↔ ∀ c ∈ t, isBlank c = true := List.all_eq_true

end Text

namespace Markup

variable {t value : Text} {tag name : Text}

/-! ## Fields with a name -/

/-- A name that a field can have. -/
def IsWord (name : Text) : Prop := name ≠ [] ∧ ∀ c ∈ name, isWordChar c = true

/-- Somewhere in a text stand a tag, white space, a name, perhaps more white space, and a colon. -/
def Names (tag name value : Text) : Prop :=
  ∃ before gap gap' after, value = before ++ tag ++ gap ++ name ++ gap' ++ ':' :: after ∧
    gap ≠ [] ∧ Text.isWhite gap = true ∧ Text.isWhite gap' = true

theorem isBlank_eq_false {c : Char} (h : isWordChar c = true) : Text.isBlank c = false := by
  have hrange : 48 ≤ c.toNat ∧ c.toNat ≤ 122 := by
    -- The classes of a character are bounds on its bits, and these are bounds on its number.
    change (((decide (65 ≤ c.val ∧ c.val ≤ 90) || (decide (97 ≤ c.val) && decide (c.val ≤ 122))) ||
      (decide (48 ≤ c.val) && decide (c.val ≤ 57))) || c == '_') = true at h
    simp only [Bool.or_eq_true, Bool.and_eq_true, decide_eq_true_eq, beq_iff_eq,
      UInt32.le_iff_toNat_le] at h
    change (((65 ≤ c.toNat ∧ c.toNat ≤ 90) ∨ 97 ≤ c.toNat ∧ c.toNat ≤ 122) ∨
      48 ≤ c.toNat ∧ c.toNat ≤ 57) ∨ c = '_' at h
    rcases h with h | rfl
    · omega
    · decide
  simp [Text.isBlank]
  omega

theorem startsWithColon_iff :
    startsWithColon t = true ↔ ∃ gap after, t = gap ++ ':' :: after ∧ Text.isWhite gap = true := by
  simp only [startsWithColon, beq_iff_eq, Text.isWhite_iff]
  exact Text.head?_dropWhile_eq_some_iff (by decide)

theorem isWordChar_eq_false_of_startsWithColon (h : startsWithColon t = true) {c : Char}
    (hc : t.head? = some c) : isWordChar c = false := by
  obtain ⟨gap, after, rfl, hgap⟩ := startsWithColon_iff.mp h
  rw [Text.isWhite_iff] at hgap
  cases gap with
  | nil =>
      obtain rfl := Option.some.inj hc
      decide
  | cons d gap =>
      obtain rfl := Option.some.inj hc
      by_contra hword
      rw [Bool.not_eq_false] at hword
      simpa [isBlank_eq_false hword] using hgap d List.mem_cons_self

theorem fieldName?_eq_some_iff :
    fieldName? t = some name ↔ IsWord name ∧ ∃ gap rest, t = gap ++ name ++ rest ∧
      gap ≠ [] ∧ Text.isWhite gap = true ∧ startsWithColon rest = true := by
  simp only [fieldName?, Text.drop_length_takeWhile]
  constructor
  · intro h
    split_ifs at h with hfound
    obtain rfl := Option.some.inj h
    simp only [Bool.and_eq_true, Bool.not_eq_true', List.isEmpty_eq_false_iff] at hfound
    obtain ⟨⟨hblank, hname⟩, hcolon⟩ := hfound
    refine ⟨⟨hname, fun c => List.mem_takeWhile_imp⟩, t.takeWhile Text.isBlank, _, ?_, ?_,
      Text.isWhite_iff.mpr fun c => List.mem_takeWhile_imp, hcolon⟩
    · rw [List.append_assoc, List.takeWhile_append_dropWhile, List.takeWhile_append_dropWhile]
    · cases t with
      | nil => simp at hblank
      | cons c t =>
          have hc : Text.isBlank c = true := by simpa using hblank
          simp [hc]
  · rintro ⟨⟨hname, hword⟩, gap, rest, rfl, hne, hgap, hcolon⟩
    rw [Text.isWhite_iff] at hgap
    have hbody : (gap ++ name ++ rest).dropWhile Text.isBlank = name ++ rest := by
      rw [List.append_assoc]
      refine Text.dropWhile_append_eq hgap fun c hc => isBlank_eq_false (hword c ?_)
      rw [List.head?_append_of_ne_nil _ hname] at hc
      exact List.mem_of_head? hc
    obtain ⟨htake, hdrop⟩ := Text.span_eq_iff.mpr
      ⟨rfl, hword, fun c => isWordChar_eq_false_of_startsWithColon hcolon⟩
    have hhead : (gap ++ name ++ rest).head?.any Text.isBlank = true := by
      obtain ⟨c, gap, rfl⟩ := List.exists_cons_of_ne_nil hne
      simpa using hgap c List.mem_cons_self
    rw [hbody, htake, hdrop, hhead, hcolon]
    simp [hname]

theorem mem_fieldNames_iff : name ∈ fieldNames tag value ↔
    ∃ before rest, value = before ++ tag ++ rest ∧ fieldName? rest = some name := by
  induction value with
  | nil =>
      refine ⟨fun h => absurd h List.not_mem_nil, ?_⟩
      rintro ⟨before, rest, hnil, hname⟩
      have hrest : rest = [] := (List.append_eq_nil_iff.mp hnil.symm).2
      simp [hrest, fieldName?] at hname
  | cons c t ih =>
      rw [fieldNames, List.mem_append, Option.mem_toList, Option.bind_eq_some_iff, ih]
      constructor
      · rintro (⟨rest, hrest, hname⟩ | ⟨before, rest, rfl, hname⟩)
        · exact ⟨[], rest, Text.after?_eq_some_iff.mp hrest, hname⟩
        · exact ⟨c :: before, rest, rfl, hname⟩
      · rintro ⟨before, rest, hvalue, hname⟩
        cases before with
        | nil => exact .inl ⟨rest, Text.after?_eq_some_iff.mpr hvalue, hname⟩
        | cons d before => exact .inr ⟨before, rest, (List.cons.inj hvalue).2, hname⟩

/-- A name is documented if it stands in a field, and can stand there. -/
theorem documents_iff {tag name : String} :
    documents tag value name = true ↔
      IsWord name.toList ∧ Names tag.toList name.toList value := by
  rw [documents, List.contains_iff_mem, mem_fieldNames_iff]
  simp only [fieldName?_eq_some_iff, startsWithColon_iff]
  constructor
  · rintro ⟨before, rest, rfl, hword, gap, rest, rfl, hne, hgap, gap', after, rfl, hgap'⟩
    exact ⟨hword, before, gap, gap', after, by simp, hne, hgap, hgap'⟩
  · rintro ⟨hword, before, gap, gap', after, rfl, hne, hgap, hgap'⟩
    exact ⟨before, gap ++ name.toList ++ gap' ++ ':' :: after, by simp, hword,
      gap, gap' ++ ':' :: after, by simp, hne, hgap, gap', after, rfl, hgap'⟩

/-! ## Fields that open a line -/

/-- A text starts with spaces, a tag, perhaps a word, and a colon. -/
def Opens (t : Text) : Prop :=
  ∃ indent, ∃ tag ∈ tags, ∃ gap word gap' after,
    t = indent ++ '@' :: tag ++ gap ++ word ++ gap' ++ ':' :: after ∧
      (∀ c ∈ indent, c = ' ') ∧ Text.isWhite gap = true ∧
      (∀ c ∈ word, isWordChar c = true) ∧ Text.isWhite gap' = true

theorem closesField_iff : closesField t = true ↔
    ∃ gap word rest, t = gap ++ word ++ rest ∧ Text.isWhite gap = true ∧
      (∀ c ∈ word, isWordChar c = true) ∧ startsWithColon rest = true := by
  rw [closesField]
  constructor
  · intro h
    refine ⟨t.takeWhile Text.isBlank, (t.dropWhile Text.isBlank).takeWhile isWordChar, _, ?_,
      Text.isWhite_iff.mpr fun c => List.mem_takeWhile_imp, fun c => List.mem_takeWhile_imp, h⟩
    rw [List.append_assoc, List.takeWhile_append_dropWhile, List.takeWhile_append_dropWhile]
  · rintro ⟨gap, word, rest, rfl, hgap, hword, hcolon⟩
    rw [List.append_assoc, List.dropWhile_append_of_pos (Text.isWhite_iff.mp hgap)]
    cases word with
    | nil =>
        -- The white space on both sides of the missing word is dropped at once.
        obtain ⟨gap', after, rfl, hgap'⟩ := startsWithColon_iff.mp hcolon
        rw [List.nil_append, Text.dropWhile_append_eq (Text.isWhite_iff.mp hgap')
          (by simp [Text.isBlank])]
        rfl
    | cons c word =>
        have hc : Text.isBlank c = false := isBlank_eq_false (hword c List.mem_cons_self)
        rw [List.cons_append, List.dropWhile_cons_of_neg (by simp [hc]), ← List.cons_append,
          Text.dropWhile_append_eq hword
            fun d => isWordChar_eq_false_of_startsWithColon hcolon]
        exact hcolon

theorem startsWithField_iff : startsWithField t = true ↔ Opens t := by
  constructor
  · intro h
    have hindent : ∀ c ∈ t.takeWhile (· == ' '), c = ' ' := fun c hc => by
      simpa using List.mem_takeWhile_imp hc
    have ht := (List.takeWhile_append_dropWhile (p := (· == ' ')) (l := t)).symm
    rw [startsWithField] at h
    split at h
    case h_2 => exact absurd h Bool.false_ne_true
    case h_1 rest hrest =>
      obtain ⟨tag, htag, hcloses⟩ := List.any_eq_true.mp h
      obtain ⟨_, hafter, hrest'⟩ := (Option.any_eq_true _ _).mp hcloses
      obtain rfl := Text.after?_eq_some_iff.mp hafter
      obtain ⟨gap, word, _, rfl, hgap, hword, hcolon⟩ := closesField_iff.mp hrest'
      obtain ⟨gap', after, rfl, hgap'⟩ := startsWithColon_iff.mp hcolon
      refine ⟨_, tag, htag, gap, word, gap', after, ?_, hindent, hgap, hword, hgap'⟩
      rw [hrest] at ht
      simpa using ht
  · rintro ⟨indent, tag, htag, gap, word, gap', after, rfl, hindent, hgap, hword, hgap'⟩
    have hdrop : (indent ++ '@' :: tag ++ gap ++ word ++ gap' ++ ':' :: after).dropWhile
        (· == ' ') = '@' :: (tag ++ (gap ++ word ++ (gap' ++ ':' :: after))) := by
      simp only [List.append_assoc, List.cons_append]
      exact Text.dropWhile_append_eq (by simpa using hindent) (by simp)
    rw [startsWithField, hdrop]
    refine List.any_eq_true.mpr ⟨tag, htag, ?_⟩
    rw [Text.after?_eq_some_iff.mpr rfl, Option.any_some, closesField_iff]
    exact ⟨gap, word, _, rfl, hgap, hword, startsWithColon_iff.mpr ⟨gap', after, rfl, hgap'⟩⟩

theorem not_opens_nil : ¬ Opens [] := by
  rintro ⟨indent, tag, -, gap, word, gap', after, h, -⟩
  simp at h

/-- The first line, other than the very first one, from which on a text opens with a field. -/
structure FirstField (lines : List Text) (k : Nat) : Prop where
  pos : 1 ≤ k
  opens : Opens (['\n'].intercalate (lines.drop k))
  least : ∀ j, 1 ≤ j → j < k → ¬ Opens (['\n'].intercalate (lines.drop j))

variable {line : Text} {lines : List Text} {k : Nat}

theorem not_firstField_nil : ¬ FirstField [] k := fun h => by
  have hopens := h.opens
  rw [List.drop_nil] at hopens
  exact not_opens_nil hopens

theorem firstField_cons_iff : FirstField (line :: lines) k ↔
    k = 1 ∧ Opens (['\n'].intercalate lines) ∨
      ¬ Opens (['\n'].intercalate lines) ∧ ∃ j, k = j + 1 ∧ FirstField lines j := by
  constructor
  · rintro ⟨hpos, hopens, hleast⟩
    obtain ⟨j, rfl⟩ := Nat.exists_eq_add_of_le' hpos
    rw [List.drop_succ_cons] at hopens
    by_cases hj : j = 0
    · exact .inl ⟨by omega, by simpa [hj] using hopens⟩
    · refine .inr ⟨hleast 1 le_rfl (by omega), j, rfl, by omega, hopens, fun i hi hij => ?_⟩
      exact hleast (i + 1) (by omega) (by omega)
  · rintro (⟨rfl, hopens⟩ | ⟨hclosed, j, rfl, h⟩)
    · exact ⟨le_rfl, hopens, fun j hj hjk => by omega⟩
    · refine ⟨Nat.le_add_left .., h.opens, fun i hi hij => ?_⟩
      obtain ⟨i, rfl⟩ := Nat.exists_eq_add_of_le' hi
      by_cases hzero : i = 0
      · rwa [hzero]
      · exact h.least i (by omega) (by omega)

theorem prose?_append (h : '\n' ∉ line) (t : Text) :
    prose? (line ++ t) = (prose? t).map (line ++ ·) := by
  induction line with
  | nil => simp
  | cons c line ih =>
      obtain ⟨hc, hline⟩ := List.ne_and_not_mem_of_not_mem_cons h
      rw [List.cons_append, prose?, if_neg fun hmark => hc hmark.1.symm, ih hline,
        Option.map_map]
      rfl

theorem prose?_append_newline (h : '\n' ∉ line) (t : Text) :
    prose? (line ++ '\n' :: t) =
      if startsWithField t then some (line ++ ['\n'])
      else (prose? t).map (line ++ '\n' :: ·) := by
  rw [prose?_append h, prose?]
  simp only [true_and]
  split
  · rfl
  · rw [Option.map_map]
    rfl

/-- The text before the first field that opens a line consists of the lines before that one. -/
theorem prose?_intercalate (hlines : ∀ line ∈ lines, '\n' ∉ line) {p : Text} :
    prose? (['\n'].intercalate lines) = some p ↔
      ∃ k, FirstField lines k ∧ (lines.take k).flatMap (· ++ ['\n']) = p := by
  induction lines generalizing p with
  | nil => simp [prose?, not_firstField_nil]
  | cons line lines ih =>
      obtain ⟨hline, hrest⟩ := List.forall_mem_cons.mp hlines
      cases lines with
      | nil =>
          have hnone : prose? line = none := by
            simpa [prose?] using prose?_append hline []
          simp [hnone, firstField_cons_iff, not_firstField_nil, not_opens_nil]
      | cons next lines =>
          -- The field opens the next line, or the lines from there on have the first one.
          have htext : ['\n'].intercalate (line :: next :: lines) =
              line ++ '\n' :: ['\n'].intercalate (next :: lines) := by
            simp [List.intercalate_cons_cons]
          rw [htext, prose?_append_newline hline]
          by_cases hopens : Opens (['\n'].intercalate (next :: lines))
          · rw [if_pos (startsWithField_iff.mpr hopens), Option.some_inj]
            constructor
            · rintro rfl
              exact ⟨1, firstField_cons_iff.mpr (.inl ⟨rfl, hopens⟩), by simp⟩
            · rintro ⟨k, hfirst, rfl⟩
              obtain ⟨rfl, -⟩ | ⟨hclosed, -⟩ := firstField_cons_iff.mp hfirst
              · simp
              · exact absurd hopens hclosed
          · rw [if_neg fun h => hopens (startsWithField_iff.mp h), Option.map_eq_some_iff]
            constructor
            · rintro ⟨p, hp, rfl⟩
              obtain ⟨k, hfirst, rfl⟩ := (ih hrest).mp hp
              exact ⟨k + 1, firstField_cons_iff.mpr (.inr ⟨hopens, k, rfl, hfirst⟩), by simp⟩
            · rintro ⟨k, hfirst, rfl⟩
              obtain ⟨-, hopen⟩ | ⟨-, k, rfl, hlater⟩ := firstField_cons_iff.mp hfirst
              · exact absurd hopen hopens
              · exact ⟨_, (ih hrest).mpr ⟨k, hlater, rfl⟩, by simp⟩

/-- A text of lines ends in a blank line if its last line is one, and not the only line. -/
theorem endsInBlankLine_iff {front : List Text} (h : '\n' ∉ line) :
    endsInBlankLine (front.flatMap (· ++ ['\n']) ++ line ++ ['\n']) = true ↔
      front ≠ [] ∧ Text.isWhite line = true := by
  have hreverse : (front.flatMap (· ++ ['\n']) ++ line ++ ['\n']).reverse =
      '\n' :: (line.reverse ++ (front.flatMap (· ++ ['\n'])).reverse) := by
    simp
  have hline : (line.reverse).filter (· == '\n') = [] :=
    List.filter_eq_nil_iff.mpr fun c hc hmark =>
      h (beq_iff_eq.mp hmark ▸ List.mem_reverse.mp hc)
  rw [endsInBlankLine, decide_eq_true_iff, hreverse,
    List.takeWhile_cons_of_pos (by simp [Text.isBlank]), List.filter_cons_of_pos (by simp),
    List.length_cons]
  by_cases hwhite : Text.isWhite line = true
  · have hblank : ∀ c ∈ line.reverse, Text.isBlank c = true := by
      simpa using Text.isWhite_iff.mp hwhite
    rw [List.takeWhile_append_of_pos hblank, List.filter_append, hline, List.nil_append]
    rcases List.eq_nil_or_concat front with rfl | ⟨front, last, rfl⟩
    · simp
    · simp [hwhite, Text.isBlank]
  · have hstops : (line.reverse.takeWhile Text.isBlank).length ≠ line.reverse.length := by
      intro hlength
      have hself := (List.takeWhile_prefix Text.isBlank).eq_of_length hlength
      exact hwhite (Text.isWhite_iff.mpr (by simpa using List.takeWhile_eq_self_iff.mp hself))
    have hnone : (line.reverse.takeWhile Text.isBlank).filter (· == '\n') = [] :=
      List.sublist_nil.mp (hline ▸ (List.takeWhile_sublist _).filter _)
    rw [List.takeWhile_append, if_neg hstops, hnone]
    simp [hwhite]

theorem FirstField.lt_length (h : FirstField lines k) : k < lines.length := by
  by_contra hle
  have hopens := h.opens
  rw [List.drop_eq_nil_of_le (Nat.le_of_not_lt hle)] at hopens
  exact not_opens_nil hopens

theorem endsInBlankLine_take_iff (hlines : ∀ line ∈ lines, '\n' ∉ line) (h : FirstField lines k) :
    endsInBlankLine ((lines.take k).flatMap (· ++ ['\n'])) = true ↔
      2 ≤ k ∧ ∃ line, lines[k - 1]? = some line ∧ Text.isWhite line = true := by
  obtain ⟨j, rfl⟩ := Nat.exists_eq_add_of_le' h.pos
  have hj : j < lines.length := Nat.lt_of_succ_lt h.lt_length
  have hne : lines ≠ [] := List.ne_nil_of_length_pos (Nat.zero_lt_of_lt hj)
  have htake : (lines.take (j + 1)).flatMap (· ++ ['\n']) =
      (lines.take j).flatMap (· ++ ['\n']) ++ lines[j] ++ ['\n'] := by
    rw [List.take_succ_eq_append_getElem hj, List.flatMap_append, List.flatMap_singleton,
      List.append_assoc]
  rw [htake, endsInBlankLine_iff (hlines _ (List.getElem_mem hj)), Nat.add_sub_cancel,
    List.getElem?_eq_getElem hj]
  simp only [ne_eq, List.take_eq_nil_iff, hne, or_false, Option.some.injEq, exists_eq_left']
  exact and_congr_left fun _ => by omega

/-- A field lacks a blank line before it if one opens a line, and the first such line follows the
very first one or a line that is not blank. -/
theorem lacksBlankLine_iff : lacksBlankLine value = true ↔
    ∃ k, FirstField (List.splitOn '\n' value) k ∧
      ¬ (2 ≤ k ∧ ∃ line, (List.splitOn '\n' value)[k - 1]? = some line ∧
        Text.isWhite line = true) := by
  have hlines : ∀ line ∈ List.splitOn '\n' value, '\n' ∉ line := fun line hline =>
    (Text.of_mem_splitOn (Text.splitOn_eq '\n' value ▸ hline : line ∈ Text.splitOn _ value)).2
  have hprose {p : Text} := prose?_intercalate hlines (p := p)
  rw [List.intercalate_splitOn] at hprose
  rw [lacksBlankLine, Option.any_eq_true]
  constructor
  · rintro ⟨p, hp, hcrowded⟩
    obtain ⟨k, hfirst, rfl⟩ := hprose.mp hp
    refine ⟨k, hfirst, ?_⟩
    rwa [Bool.not_eq_true', Bool.eq_false_iff, ne_eq, endsInBlankLine_take_iff hlines hfirst]
      at hcrowded
  · rintro ⟨k, hfirst, hcrowded⟩
    refine ⟨_, hprose.mpr ⟨k, hfirst, rfl⟩, ?_⟩
    rwa [Bool.not_eq_true', Bool.eq_false_iff, ne_eq, endsInBlankLine_take_iff hlines hfirst]

end Markup

end CodingStandard
