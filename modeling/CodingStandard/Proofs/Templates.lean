import CodingStandard.Message.Catalog
import Mathlib.Data.List.Infix
import Mathlib.Logic.Relation

namespace CodingStandard

/-!
# Templates of messages

The placeholders of a template part it into pieces, from the left and without overlaps. A message
is those pieces with a filler in each gap between two of them. Which pieces there are is decided by
the template alone, so that what looks like a placeholder in an argument is none.
-/

namespace Text

variable {mark front front' back back' t : Text} {pieces pieces' : List Text} {c : Char}

/-! ## The pieces of a text -/

/-- The mark stands in the text between `front` and `back`, and nowhere farther to the left. -/
structure Leftmost (mark front back t : Text) : Prop where
  eq : t = front ++ mark ++ back
  least : ∀ before after, t = before ++ mark ++ after → front.length ≤ before.length

/-- The pieces of a text between the marks in it. Each mark is the leftmost one behind the mark
before it. -/
inductive Parted (mark : Text) : Text → List Text → Prop where
  | last {t : Text} (h : ¬ mark <:+: t) : Parted mark t [t]
  | cut {front back t : Text} {pieces : List Text} (h : Leftmost mark front back t)
      (hback : Parted mark back pieces) : Parted mark t (front :: pieces)

namespace Leftmost

theorem isInfix (h : Leftmost mark front back t) : mark <:+: t :=
  ⟨front, back, h.eq.symm⟩

theorem unique (h : Leftmost mark front back t) (h' : Leftmost mark front' back' t) :
    front = front' ∧ back = back' := by
  have hlength : front.length = front'.length :=
    Nat.le_antisymm (h.least _ _ h'.eq) (h'.least _ _ h.eq)
  have heq : front ++ (mark ++ back) = front' ++ (mark ++ back') := by
    rw [← List.append_assoc, ← List.append_assoc, ← h.eq, ← h'.eq]
  obtain ⟨hfront, hrest⟩ := List.append_inj heq hlength
  exact ⟨hfront, List.append_cancel_left hrest⟩

theorem start (mark back : Text) : Leftmost mark [] back (mark ++ back) :=
  ⟨rfl, fun _ _ _ => Nat.zero_le _⟩

theorem cons (h : Leftmost mark front back t) (hplain : ¬ mark <+: c :: t) :
    Leftmost mark (c :: front) back (c :: t) := by
  refine ⟨by rw [h.eq]; rfl, fun before after heq => ?_⟩
  cases before with
  | nil => exact absurd ⟨after, heq.symm⟩ hplain
  | cons d before => exact Nat.succ_le_succ (h.least before after (List.cons.inj heq).2)

theorem tail (h : Leftmost mark (c :: front) back (c :: t)) : Leftmost mark front back t := by
  refine ⟨(List.cons.inj h.eq).2, fun before after heq => ?_⟩
  exact Nat.le_of_succ_le_succ (h.least (c :: before) after (congrArg (c :: ·) heq))

theorem not_isPrefix (h : Leftmost mark (c :: front) back t) : ¬ mark <+: t := by
  rintro ⟨after, heq⟩
  exact absurd (h.least [] after heq.symm) (Nat.not_succ_le_zero _)

theorem length_lt (h : Leftmost mark front back t) (hmark : mark ≠ []) :
    back.length < t.length := by
  have := List.length_pos_of_ne_nil hmark
  rw [h.eq, List.length_append, List.length_append]
  omega

end Leftmost

theorem exists_leftmost (h : mark <:+: t) : ∃ front back, Leftmost mark front back t := by
  induction t with
  | nil =>
      obtain rfl := List.infix_nil.mp h
      exact ⟨[], [], .start [] []⟩
  | cons c t ih =>
      by_cases hstart : mark <+: c :: t
      · obtain ⟨back, heq⟩ := hstart
        exact ⟨[], back, heq ▸ Leftmost.start mark back⟩
      · obtain ⟨front, back, hleft⟩ := ih ((List.infix_cons_iff.mp h).resolve_left hstart)
        exact ⟨c :: front, back, hleft.cons hstart⟩

theorem exists_parted (hmark : mark ≠ []) (t : Text) :
    ∃ first rest, Parted mark t (first :: rest) := by
  induction hlength : t.length using Nat.strong_induction_on generalizing t with
  | _ n ih =>
      by_cases hinfix : mark <:+: t
      · obtain ⟨front, back, hleft⟩ := exists_leftmost hinfix
        obtain ⟨first, rest, hback⟩ := ih back.length (hlength ▸ hleft.length_lt hmark) back rfl
        exact ⟨front, first :: rest, .cut hleft hback⟩
      · exact ⟨t, [], .last hinfix⟩

theorem Parted.unique (h : Parted mark t pieces) (h' : Parted mark t pieces') :
    pieces = pieces' := by
  induction h generalizing pieces' with
  | last hnone =>
      cases h' with
      | last => rfl
      | cut hleft => exact absurd hleft.isInfix hnone
  | cut hleft _ ih =>
      cases h' with
      | last hnone => exact absurd hleft.isInfix hnone
      | cut hleft' hback' =>
          obtain ⟨rfl, rfl⟩ := hleft.unique hleft'
          rw [ih hback']

end Text

namespace MessageDef

open Text

variable {front back t first : Text} {rest args : List Text} {c : Char}

def placeholder : Text := ['\x7b', '\x7d']

/-! ## The rounds of a filling -/

theorem fill_cons (h : ¬ placeholder <+: c :: t) (args : List Text) :
    fill (c :: t) args = c :: fill t args := by
  have hplain : ∀ t', c = '\x7b' → t = '\x7d' :: t' → False := by
    rintro t' rfl rfl
    exact h ⟨t', rfl⟩
  exact fill.eq_3 args c t (fun t' _ => hplain t') (fun t' _ _ _ => hplain t')

/-- Up to the leftmost placeholder the template is copied, and behind it the filling goes on with
one argument less. -/
theorem fill_leftmost (h : Leftmost placeholder front back t) (args : List Text) :
    fill t args = front ++ args.head?.getD placeholder ++ fill back args.tail := by
  induction front generalizing t with
  | nil =>
      obtain rfl : t = '\x7b' :: '\x7d' :: back := h.eq
      cases args <;> rfl
  | cons c front ih =>
      -- No placeholder starts before the leftmost one, so the character in front is copied.
      obtain ⟨t', rfl⟩ : ∃ t', t = c :: t' := ⟨_, h.eq⟩
      rw [fill_cons h.not_isPrefix, ih h.tail]
      rfl

theorem fill_of_not_infix (h : ¬ placeholder <:+: t) (args : List Text) : fill t args = t := by
  induction t with
  | nil => exact fill.eq_4 args
  | cons c t ih =>
      obtain ⟨hstart, htail⟩ := not_or.mp (mt List.infix_cons_iff.mpr h)
      rw [fill_cons hstart, ih htail]

/-- What a filling has written, the template that is left, and the arguments that are left. -/
structure Filling where
  written : Text
  template : Text
  args : List Text

namespace Filling

/-- A round writes what stands before the leftmost placeholder and the next argument, or the
placeholder itself if no argument is left, and goes on behind the placeholder. -/
inductive Round : Filling → Filling → Prop where
  | mk {written template front back : Text} {args : List Text}
      (h : Leftmost placeholder front back template) :
      Round ⟨written, template, args⟩
        ⟨written ++ front ++ args.head?.getD placeholder, back, args.tail⟩

/-- No run of rounds goes on forever, and where no round is left, the text is what was written and
the template that is left. -/
structure Ends (s : Filling) (text : Text) : Prop where
  finite : Acc (fun next s => Round s next) s
  written : ∀ last, Relation.ReflTransGen Round s last → (∀ next, ¬ Round last next) →
    last.written ++ last.template = text

variable {s next last : Filling}

/-- What is going to be written in all. -/
def result (s : Filling) : Text := s.written ++ fill s.template s.args

theorem Round.result_eq (h : Round s next) : next.result = s.result := by
  obtain ⟨hleft⟩ := h
  simp only [result, fill_leftmost hleft, List.append_assoc]

theorem Round.length_lt (h : Round s next) : next.template.length < s.template.length := by
  obtain ⟨hleft⟩ := h
  exact hleft.length_lt (List.cons_ne_nil _ _)

theorem result_eq_of_rounds (h : Relation.ReflTransGen Round s last) : last.result = s.result := by
  induction h with
  | refl => rfl
  | tail _ hround ih => rw [hround.result_eq, ih]

theorem wellFounded_round : WellFounded fun next s => Round s next :=
  Subrelation.wf Round.length_lt (measure fun s : Filling => s.template.length).wf

theorem result_of_last (h : ∀ next, ¬ Round last next) :
    last.result = last.written ++ last.template := by
  have hnone : ¬ placeholder <:+: last.template := by
    intro hinfix
    obtain ⟨front, back, hleft⟩ := exists_leftmost hinfix
    exact h _ ⟨hleft⟩
  rw [result, fill_of_not_infix hnone]

theorem ends_result (s : Filling) : s.Ends s.result where
  finite := wellFounded_round.apply s
  written last hrounds hlast := by rw [← result_of_last hlast, result_eq_of_rounds hrounds]

end Filling

/-! ## The text of a message -/

/-- Pieces with a filler in each gap: the argument that has the number of the gap, or the
placeholder if there are not so many. -/
def joined (first : Text) (rest args : List Text) : Text :=
  first ++ (rest.mapIdx fun i piece => args[i]?.getD placeholder ++ piece).flatten

theorem joined_cons (front first : Text) (rest args : List Text) :
    joined front (first :: rest) args =
      front ++ args.head?.getD placeholder ++ joined first rest args.tail := by
  simp [joined, List.mapIdx_cons, List.head?_eq_getElem?]

theorem fill_of_parted (h : Parted placeholder t (first :: rest)) (args : List Text) :
    fill t args = joined first rest args := by
  -- A piece further on means one round more, with the arguments that the round leaves.
  induction rest generalizing t first args with
  | nil =>
      cases h with
      | last hnone => simp [joined, fill_of_not_infix hnone]
      | cut _ hback => cases hback
  | cons piece rest ih =>
      cases h with
      | cut hleft hback => rw [fill_leftmost hleft, joined_cons, ih hback]

/-- A message is the pieces of its template, joined by the arguments in order. The pieces do not
depend on the arguments, and the rounds that fill the template come to an end with this text. -/
theorem render_joinsPieces (msg : MessageDef) :
    ∃ first rest,
      (∀ pieces, Parted placeholder msg.summary.toList pieces ↔ pieces = first :: rest) ∧
      ∀ args : List String,
        (msg.render args).toList = joined first rest (args.map String.toList) ∧
        Filling.Ends ⟨[], msg.summary.toList, args.map String.toList⟩
          (msg.render args).toList := by
  obtain ⟨first, rest, hparted⟩ :=
    exists_parted (List.cons_ne_nil _ _ : placeholder ≠ []) msg.summary.toList
  have hrender : ∀ args : List String,
      (msg.render args).toList = fill msg.summary.toList (args.map String.toList) :=
    fun _ => String.toList_ofList
  refine ⟨first, rest, fun pieces => ⟨fun h => h.unique hparted, fun h => h ▸ hparted⟩, ?_⟩
  intro args
  rw [hrender args]
  exact ⟨fill_of_parted hparted _, Filling.ends_result _⟩

/-- A brace before a placeholder is text, and so are the braces of an argument. -/
example : fill "\x7b\x7b\x7d\x7b\x7d é \x7b\x7d".toList ["\x7b\x7d".toList, "b".toList] =
    "\x7b\x7b\x7db é \x7b\x7d".toList := by
  decide

end MessageDef

end CodingStandard
