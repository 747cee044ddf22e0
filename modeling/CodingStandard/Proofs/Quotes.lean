import CodingStandard.Proofs.Literals
import Mathlib.Data.Nat.Count

namespace CodingStandard

/-!
# Quotes and line ends of literals

The quotes of a literal are guessed: the longer ones are tried first, on both ends at once. A text
that is quoted in one mark and does not hold it is never taken for one in longer quotes, whatever it
starts or ends with. The line ends in it become newlines one by one.
-/

namespace Literal

variable {mark body t : Text} {quote other c : Char}

/-! ## The text between the quotes -/

/-- A mark stands in a text. A backslash takes the character behind it along, so that no mark starts
there. -/
inductive Unescaped (mark : Text) : Text → Prop where
  | here {t : Text} (h : mark <+: t) : Unescaped mark t
  | plain {c : Char} {t : Text} (hc : c ≠ '\\') (h : Unescaped mark t) : Unescaped mark (c :: t)
  | escaped {c : Char} {t : Text} (h : Unescaped mark t) : Unescaped mark ('\\' :: c :: t)

theorem unescaped_nil : Unescaped mark [] ↔ mark = [] := by
  constructor
  · rintro ⟨h⟩
    exact List.prefix_nil.mp h
  · rintro rfl
    exact .here List.prefix_rfl

theorem unescaped_cons (hc : c ≠ '\\') :
    Unescaped mark (c :: t) ↔ mark <+: c :: t ∨ Unescaped mark t := by
  constructor
  · intro h
    cases h with
    | here h => exact .inl h
    | plain _ h => exact .inr h
    | escaped => contradiction
  · rintro (h | h)
    · exact .here h
    · exact .plain hc h

theorem unescaped_backslash :
    Unescaped mark ('\\' :: c :: t) ↔ mark <+: '\\' :: c :: t ∨ Unescaped mark t := by
  constructor
  · intro h
    cases h with
    | here h => exact .inl h
    | plain hc => contradiction
    | escaped h => exact .inr h
  · rintro (h | h)
    · exact .here h
    · exact .escaped h

theorem between?_quoted (mark body : Text) : between? mark (mark ++ body ++ mark) = some body :=
  between?_eq_some_iff.mpr rfl

theorem between?_of_ne {marks : Text} (h : other ≠ quote) (t : Text) :
    between? (other :: marks) (quote :: t) = none := by
  rw [Option.eq_none_iff_forall_not_mem]
  intro inner hinner
  have heq := between?_eq_some_iff.mp hinner
  exact h (List.head_eq_of_cons_eq heq).symm

/-- A text without its own mark is not taken for one between three marks. -/
theorem between?_tripled (h : ¬ Unescaped [quote] body) :
    between? [quote, quote, quote] ([quote] ++ body ++ [quote]) = none := by
  rw [Option.eq_none_iff_forall_not_mem]
  intro inner hinner
  have heq := between?_eq_some_iff.mp hinner
  cases body with
  | nil =>
      have hlength := congrArg List.length heq
      simp at hlength
  | cons c rest =>
      have hc : c = quote := by
        simp only [List.cons_append, List.nil_append, List.cons.injEq] at heq
        exact heq.2.1
      exact h (.here (by simp [hc]))

/-- The first delimiters that fit are those that the text was quoted in. -/
theorem findSome?_delimiters (hmark : mark ∈ delimiters) (h : ¬ Unescaped mark body) :
    delimiters.findSome? (between? · (mark ++ body ++ mark)) = some body := by
  have hquoted := between?_quoted mark body
  have hother (marks t : Text) : between? ('"' :: marks) ('\'' :: t) = none :=
    between?_of_ne (by decide) t
  have hother' (marks t : Text) : between? ('\'' :: marks) ('"' :: t) = none :=
    between?_of_ne (by decide) t
  rw [List.findSome?_eq_some_iff]
  simp only [delimiters, List.mem_cons, List.not_mem_nil, or_false] at hmark
  rcases hmark with rfl | rfl | rfl | rfl
  · exact ⟨[], _, _, rfl, hquoted, List.forall_mem_nil _⟩
  · exact ⟨[['"', '"', '"']], _, _, rfl, hquoted, by simpa using hother _ _⟩
  · refine ⟨[['"', '"', '"'], ['\'', '\'', '\'']], _, _, rfl, hquoted, ?_⟩
    simpa using ⟨between?_tripled h, hother' _ _⟩
  · refine ⟨[['"', '"', '"'], ['\'', '\'', '\''], ['"']], _, _, rfl, hquoted, ?_⟩
    simpa using ⟨hother _ _, between?_tripled h, hother _ _⟩

theorem value_quoted {letters : Text} (hletters : ∀ c ∈ letters, c.isAlpha = true)
    (hmark : mark ∈ delimiters) (h : ¬ Unescaped mark body) :
    value (letters ++ (mark ++ body ++ mark)) = body := by
  rw [value, dropWhile_letters hletters hmark, findSome?_delimiters hmark h, Option.getD_some]

/-! ## Line ends -/

/-- A carriage return and a newline behind it stand at a position. -/
def PairAt (t : Text) (i : Nat) : Prop := t[i]? = some '\r' ∧ t[i + 1]? = some '\n'

/-- A carriage return stands at a position, and no newline behind it. -/
def ReturnAt (t : Text) (i : Nat) : Prop := t[i]? = some '\r' ∧ t[i + 1]? ≠ some '\n'

/-- A newline stands at a position, and no carriage return before it. -/
def NewlineAt (t : Text) (i : Nat) : Prop :=
  t[i]? = some '\n' ∧ (i = 0 ∨ t[i - 1]? ≠ some '\r')

instance (t : Text) : DecidablePred (PairAt t) := fun _ => inferInstanceAs (Decidable (_ ∧ _))

instance (t : Text) : DecidablePred (ReturnAt t) := fun _ => inferInstanceAs (Decidable (_ ∧ _))

instance (t : Text) : DecidablePred (NewlineAt t) := fun _ => inferInstanceAs (Decidable (_ ∧ _))

theorem pairAt_succ {i : Nat} : PairAt (c :: t) (i + 1) ↔ PairAt t i := by simp [PairAt]

theorem returnAt_succ {i : Nat} : ReturnAt (c :: t) (i + 1) ↔ ReturnAt t i := by simp [ReturnAt]

/-- A newline that stands alone does so behind another character too, unless the two make a
pair. -/
theorem newlineAt_succ (h : c ≠ '\r' ∨ t.head? ≠ some '\n') {i : Nat} :
    NewlineAt (c :: t) (i + 1) ↔ NewlineAt t i := by
  cases i with
  | zero =>
      rw [List.head?_eq_getElem?] at h
      simp only [NewlineAt, List.getElem?_cons_succ]
      grind
  | succ i => simp [NewlineAt]

theorem count_congr {p q : Nat → Prop} [DecidablePred p] [DecidablePred q] (h : ∀ i, p i ↔ q i)
    (n : Nat) : Nat.count p n = Nat.count q n := by
  simp only [Nat.count_eq_card_filter_range, h]

/-- The number of line ends in a text: pairs, carriage returns alone, and newlines alone. -/
def lineEnds (t : Text) : Nat :=
  Nat.count (PairAt t) t.length + Nat.count (ReturnAt t) t.length +
    Nat.count (NewlineAt t) t.length

theorem lineEnds_cons (h : c ≠ '\r' ∨ t.head? ≠ some '\n') :
    lineEnds (c :: t) = lineEnds t + if c = '\r' ∨ c = '\n' then 1 else 0 := by
  have hpairs := count_congr (fun i => pairAt_succ (c := c) (t := t) (i := i)) t.length
  have hreturns := count_congr (fun i => returnAt_succ (c := c) (t := t) (i := i)) t.length
  have hnewlines := count_congr (fun i => newlineAt_succ h (i := i)) t.length
  rw [List.head?_eq_getElem?] at h
  have hpair : ¬ PairAt (c :: t) 0 := by
    simp only [PairAt, List.getElem?_cons_succ, List.getElem?_cons_zero]
    grind
  have hreturn : ReturnAt (c :: t) 0 ↔ c = '\r' := by
    simp only [ReturnAt, List.getElem?_cons_succ, List.getElem?_cons_zero]
    grind
  have hnewline : NewlineAt (c :: t) 0 ↔ c = '\n' := by simp [NewlineAt]
  rw [lineEnds, List.length_cons, Nat.count_succ', Nat.count_succ', Nat.count_succ', hpairs,
    hreturns, hnewlines, if_neg hpair, lineEnds]
  simp only [hreturn, hnewline]
  by_cases hr : c = '\r'
  · simp [hr]
    omega
  · simp [hr]
    omega

theorem lineEnds_pair (t : Text) : lineEnds ('\r' :: '\n' :: t) = lineEnds t + 1 := by
  have hpairs := count_congr (p := fun i => PairAt ('\r' :: '\n' :: t) (i + 1 + 1))
    (fun i => pairAt_succ.trans (pairAt_succ (t := t) (i := i))) t.length
  have hreturns := count_congr (p := fun i => ReturnAt ('\r' :: '\n' :: t) (i + 1 + 1))
    (fun i => returnAt_succ.trans (returnAt_succ (t := t) (i := i))) t.length
  have hnewlines := count_congr (p := fun i => NewlineAt ('\r' :: '\n' :: t) (i + 1 + 1))
    (q := NewlineAt t) (fun i => by cases i <;> simp [NewlineAt]) t.length
  rw [lineEnds, List.length_cons, List.length_cons]
  simp only [Nat.count_succ', hpairs, hreturns, hnewlines, lineEnds]
  simp [PairAt, ReturnAt, NewlineAt]
  omega

theorem not_mem_normalizeNewlines (t : Text) : '\r' ∉ normalizeNewlines t := by
  fun_induction normalizeNewlines t with
  | case1 t ih => simp [ih]
  | case2 t hnot ih => simp [ih]
  | case3 c t hnot hnot' ih =>
      have hc : '\r' ≠ c := fun heq => hnot' heq.symm
      simp [ih, hc]
  | case4 => simp

theorem normalizeNewlines_of_not_mem (h : '\r' ∉ t) : normalizeNewlines t = t := by
  have hbare : Text.NoBareReturn t := by
    rintro before after rfl
    simp at h
  rw [normalizeNewlines_eq_filter hbare, Text.filter_of_not_mem h]

theorem count_normalizeNewlines (t : Text) : (normalizeNewlines t).count '\n' = lineEnds t := by
  fun_induction normalizeNewlines t with
  | case1 t ih => rw [List.count_cons_self, ih, lineEnds_pair]
  | case2 t hnot ih =>
      have hhead : t.head? ≠ some '\n' := by
        intro hhead
        obtain ⟨rest, rfl⟩ := List.head?_eq_some_iff.mp hhead
        exact hnot rest rfl
      rw [List.count_cons_self, ih, lineEnds_cons (.inr hhead)]
      rfl
  | case3 c t hnot hnot' ih =>
      have hc : c ≠ '\r' := fun heq => hnot' heq
      rw [List.count_cons, ih, lineEnds_cons (.inl hc)]
      simp [hc]
  | case4 => rfl

theorem filter_normalizeNewlines (t : Text) : (normalizeNewlines t).filter (· != '\n') =
    t.filter fun c => c != '\r' && c != '\n' := by
  fun_induction normalizeNewlines t with
  | case1 t ih => simp [ih]
  | case2 t hnot ih => simp [ih]
  | case3 c t hnot hnot' ih =>
      have hc : c ≠ '\r' := fun heq => hnot' heq
      simp [List.filter_cons, ih, hc]
  | case4 => rfl

/-- Letters, a delimiter, a text without it and the delimiter again are read as that text. With its
line ends as newlines the text holds no carriage return, a newline for every pair, every carriage
return alone and every newline alone, and the other characters as before; nothing is left to do for
a second time. -/
theorem value_normalized {letters mark body : Text} (hletters : ∀ c ∈ letters, c.isAlpha = true)
    (hmark : mark ∈ delimiters) (hbody : ¬ Unescaped mark body) :
    value (letters ++ (mark ++ body ++ mark)) = body ∧
      '\r' ∉ normalizeNewlines body ∧
      (normalizeNewlines body).count '\n' = Nat.count (PairAt body) body.length +
        Nat.count (ReturnAt body) body.length + Nat.count (NewlineAt body) body.length ∧
      ((normalizeNewlines body).filter (· != '\n') =
        body.filter fun c => c != '\r' && c != '\n') ∧
      normalizeNewlines (normalizeNewlines body) = normalizeNewlines body :=
  ⟨value_quoted hletters hmark hbody, not_mem_normalizeNewlines body,
    count_normalizeNewlines body, filter_normalizeNewlines body,
    normalizeNewlines_of_not_mem (not_mem_normalizeNewlines body)⟩

/-- A text that starts with two marks of the other kind and holds a mark behind a backslash. -/
def mixedBody : Text := "''\\\" \r\n\r".toList

theorem value_normalized_mixed :
    (∀ c ∈ ['u'], c.isAlpha = true) ∧ ['"'] ∈ delimiters ∧ ¬ Unescaped ['"'] mixedBody ∧
      value (['u'] ++ (['"'] ++ mixedBody ++ ['"'])) = mixedBody ∧
      normalizeNewlines mixedBody = "''\\\" \n\n".toList := by
  have hletters : ∀ c ∈ ['u'], c.isAlpha = true := List.forall_mem_singleton.mpr (by decide)
  have hmark : ['"'] ∈ delimiters := by decide
  have hbody : ¬ Unescaped ['"'] mixedBody := by
    have htext : mixedBody = ['\'', '\'', '\\', '"', ' ', '\r', '\n', '\r'] := by decide
    rw [htext]
    simp [unescaped_nil, unescaped_cons, unescaped_backslash]
  exact ⟨hletters, hmark, hbody, (value_normalized hletters hmark hbody).1, by decide⟩

end Literal

end CodingStandard
