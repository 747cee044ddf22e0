import CodingStandard.Checker.Spacing
import Mathlib.Data.List.Forall2

namespace CodingStandard.Spacing

/-!
# Asynchronous definitions

A function keeps its place among the other lines when it is made asynchronous, and nearly every rule
for blank lines asks the same of it as before. The exception is a method below a method that is only
a docstring: there an ordinary one may follow after two blank lines, and an asynchronous one may
not.
-/

/-- The second line is the first one, or its definition of a function made asynchronous. -/
inductive Respelt : LogicalLine → LogicalLine → Prop where
  | same (line : LogicalLine) : Respelt line line
  | async {line : LogicalLine} {rest : Text} (h : line.text = "def ".toList ++ rest) :
      Respelt line { line with text := "async def ".toList ++ rest }

/-- An ordinary method two blank lines below a method that is only a docstring. -/
def followsStub (previous current : LogicalLine) : Bool :=
  0 < current.indent && isDocstring previous.text && previous.indent == current.indent + 4 &&
    opensFunction current.text && current.blankBefore == 2

/-- What is found about a line once it is asynchronous, and was not found before. -/
def overlooked? (previous current current' : LogicalLine) : Option Finding :=
  if followsStub previous current ∧ current' ≠ current then
    some (.counting tooManyAfterDocstring current)
  else none

/-- What is found about the methods that follow a stub once they are asynchronous. -/
def overlooked : List LogicalLine → List LogicalLine → List Finding
  | previous :: current :: rest, _ :: current' :: rest' =>
    (overlooked? previous current current').toList ++
      overlooked (current :: rest) (current' :: rest')
  | _, _ => []

/-! ## The two spellings -/

section Text

variable {rest : Text}

theorem opensDefinition_def : opensDefinition ("def ".toList ++ rest) = true := by
  simp [opensDefinition, opensFunction, Text.startsWith, Text.after?]

theorem opensDefinition_async : opensDefinition ("async def ".toList ++ rest) = true := by
  simp [opensDefinition, Text.startsWith, Text.after?]

theorem opensFunction_async : opensFunction ("async def ".toList ++ rest) = false := by
  simp [opensFunction, Text.startsWith, Text.after?]

theorem isDocstring_async :
    isDocstring ("async def ".toList ++ rest) = isDocstring ("def ".toList ++ rest) := by
  simp [isDocstring]

theorem isDocstring_of_isDecorator {t : Text} (h : isDecorator t) : isDocstring t = false := by
  have hhead : t.head? = some '@' := by simpa [isDecorator] using h
  obtain ⟨rest, rfl⟩ := List.head?_eq_some_iff.mp hhead
  simp [isDocstring]

end Text

/-! ## One line below another -/

variable {maxBlankLines : Nat} {previous previous' current current' : LogicalLine}

/-- What is found about a definition if the methods that follow a stub are not let off. -/
def strict? (previous current : LogicalLine) : Option Finding :=
  let blanks := current.blankBefore
  if 0 < current.indent then
    if isDocstring previous.text then
      if blanks > 1 then some (.counting tooManyAfterDocstring current) else none
    else if blanks == 2 || current.indent > 4 || previous.indent < current.indent then none
    else some (.counting expectedTwo current)
  else if blanks != 3 then some (.counting expectedThree current)
  else none

theorem between?_of_opensDefinition (hdecorator : isDecorator previous.text = false)
    (hdefinition : opensDefinition current.text = true) :
    between? maxBlankLines previous current =
      if followsStub previous current then none else strict? previous current := by
  rw [between?, hdecorator, hdefinition]
  by_cases hinner : 0 < current.indent
  · by_cases hdocstring : isDocstring previous.text
    · have hstub : (previous.indent == current.indent + 4 && opensFunction current.text &&
          current.blankBefore == 2) = followsStub previous current := by
        simp [followsStub, hinner, hdocstring]
      simp only [hinner, hdocstring, hstub, strict?]
      cases followsStub previous current <;> simp
    · have hstub : followsStub previous current = false := by simp [followsStub, hdocstring]
      simp only [hstub, hinner, hdocstring, strict?]
      rfl
  · have hstub : followsStub previous current = false := by simp [followsStub, hinner]
    simp only [hstub, hinner, strict?]
    rfl

theorem strict?_of_followsStub (h : followsStub previous current) :
    strict? previous current = some (.counting tooManyAfterDocstring current) := by
  obtain ⟨hinner, hdocstring, -, -, hblanks⟩ : _ ∧ _ ∧ _ ∧ _ ∧ _ := by
    simpa [followsStub, and_assoc] using h
  simp [strict?, hinner, hdocstring, hblanks]

namespace Respelt

theorem between?_below (h : Respelt previous previous') (current : LogicalLine) :
    between? maxBlankLines previous' current = between? maxBlankLines previous current := by
  cases h with
  | same => rfl
  | async htext =>
      have hdecorator : isDecorator previous.text = false := by rw [htext]; rfl
      simp only [between?, isDocstring_async, ← htext, hdecorator]
      rfl

theorem toList_between? (h : Respelt current current') :
    (between? maxBlankLines previous current').toList =
      (between? maxBlankLines previous current).toList ++
        (overlooked? previous current current').toList := by
  cases h with
  | same => simp [overlooked?]
  | @async rest htext =>
      have hdefinition : opensDefinition current.text = true := by rw [htext, opensDefinition_def]
      have hdefinition' : opensDefinition ("async def ".toList ++ rest) = true :=
        opensDefinition_async
      have hfunction' : opensFunction ("async def ".toList ++ rest) = false := opensFunction_async
      have hne : "async def ".toList ++ rest ≠ current.text := by simp [htext]
      generalize "async def ".toList ++ rest = text at hdefinition' hfunction' hne ⊢
      have hchanged : ({ current with text } : LogicalLine) ≠ current :=
        fun heq => hne (congrArg (·.text) heq)
      by_cases hdecorator : isDecorator previous.text
      · have hstub : followsStub previous current = false := by
          simp [followsStub, isDocstring_of_isDecorator hdecorator]
        simp [between?, hdecorator, overlooked?, hstub]
      · have hdecorator : isDecorator previous.text = false := by simpa using hdecorator
        -- The new spelling is never let off, and all else about the line is the same.
        have hstub' : followsStub previous { current with text } = false := by
          simp [followsStub, hfunction']
        have hstrict : strict? previous { current with text } = strict? previous current := rfl
        rw [between?_of_opensDefinition hdecorator hdefinition,
          between?_of_opensDefinition hdecorator hdefinition', hstub', hstrict]
        by_cases hstub : followsStub previous current
        · have hfound := strict?_of_followsStub hstub
          simp [hstub, overlooked?, hfound, hchanged]
        · simp [hstub, overlooked?]

end Respelt

variable {lines spelt : List LogicalLine}

theorem blankLineFindings_cons_cons {rest : List LogicalLine}
    (hprevious : Respelt previous previous') (hcurrent : Respelt current current') :
    blankLineFindings maxBlankLines (previous' :: current' :: rest) =
      (between? maxBlankLines previous current).toList ++
        ((overlooked? previous current current').toList ++
          blankLineFindings maxBlankLines (current' :: rest)) := by
  rw [blankLineFindings, hprevious.between?_below, hcurrent.toList_between?, List.append_assoc]

theorem sublist_blankLineFindings (h : List.Forall₂ Respelt lines spelt) (maxBlankLines : Nat) :
    (blankLineFindings maxBlankLines lines).Sublist (blankLineFindings maxBlankLines spelt) := by
  induction h with
  | nil => exact .refl _
  | cons hprevious hrest ih =>
      cases hrest with
      | nil => exact .refl _
      | cons hcurrent hrest =>
          rw [blankLineFindings_cons_cons hprevious hcurrent, blankLineFindings]
          exact (ih.trans (List.sublist_append_right _ _)).append_left _

theorem perm_blankLineFindings (h : List.Forall₂ Respelt lines spelt) (maxBlankLines : Nat) :
    (blankLineFindings maxBlankLines spelt).Perm
      (blankLineFindings maxBlankLines lines ++ overlooked lines spelt) := by
  induction h with
  | nil => exact .refl _
  | cons hprevious hrest ih =>
      cases hrest with
      | nil => exact .refl _
      | cons hcurrent hrest =>
          rw [blankLineFindings_cons_cons hprevious hcurrent, blankLineFindings, overlooked,
            List.append_assoc]
          refine .append_left _ ((ih.append_left _).trans ?_)
          rw [← List.append_assoc, ← List.append_assoc]
          exact List.perm_append_comm.append_right _

/-- Functions made asynchronous keep the findings about them. What is new is that those that follow
a stub are found to have too many blank lines above. -/
theorem blankLineFindings_async (h : List.Forall₂ Respelt lines spelt) (maxBlankLines : Nat) :
    (blankLineFindings maxBlankLines lines).Sublist (blankLineFindings maxBlankLines spelt) ∧
      (blankLineFindings maxBlankLines spelt).Perm
        (blankLineFindings maxBlankLines lines ++ overlooked lines spelt) ∧
      (blankLineFindings maxBlankLines spelt = blankLineFindings maxBlankLines lines ↔
        overlooked lines spelt = []) := by
  have hsublist := sublist_blankLineFindings h maxBlankLines
  have hperm := perm_blankLineFindings h maxBlankLines
  have hlength := hperm.length_eq
  rw [List.length_append] at hlength
  refine ⟨hsublist, hperm, fun heq => ?_, fun hnil => ?_⟩
  · rw [heq] at hlength
    exact List.length_eq_zero_iff.mp (by omega)
  · rw [hnil, List.length_nil, Nat.add_zero] at hlength
    exact (hsublist.eq_of_length hlength.symm).symm

/-- An interface of which the first method is only a docstring. -/
def stubs : List LogicalLine :=
  [⟨"class I:".toList, 1, 1, 0, 0⟩, ⟨"def a():".toList, 2, 2, 4, 0⟩,
    ⟨"'''A.'''".toList, 3, 3, 8, 0⟩, ⟨"def b():".toList, 6, 6, 4, 2⟩, ⟨"pass".toList, 7, 7, 8, 0⟩]

/-- The same interface with a second method that is asynchronous. -/
def asyncStubs : List LogicalLine :=
  [⟨"class I:".toList, 1, 1, 0, 0⟩, ⟨"def a():".toList, 2, 2, 4, 0⟩,
    ⟨"'''A.'''".toList, 3, 3, 8, 0⟩, ⟨"async def b():".toList, 6, 6, 4, 2⟩,
    ⟨"pass".toList, 7, 7, 8, 0⟩]

theorem respelt_stubs : List.Forall₂ Respelt stubs asyncStubs :=
  .cons (.same _) (.cons (.same _) (.cons (.same _) (.cons (.async rfl) (.cons (.same _) .nil))))

theorem blankLineFindings_async_stubs :
    List.Forall₂ Respelt stubs asyncStubs ∧
      overlooked stubs asyncStubs = [⟨tooManyAfterDocstring.code, 6, 5, some "2"⟩] ∧
      (blankLineFindings 1 asyncStubs).Perm
        (blankLineFindings 1 stubs ++ [⟨tooManyAfterDocstring.code, 6, 5, some "2"⟩]) ∧
      blankLineFindings 1 asyncStubs ≠ blankLineFindings 1 stubs := by
  have hfound : overlooked stubs asyncStubs = [⟨tooManyAfterDocstring.code, 6, 5, some "2"⟩] := by
    decide
  obtain ⟨-, hperm, heq_iff⟩ := blankLineFindings_async respelt_stubs 1
  refine ⟨respelt_stubs, hfound, hfound ▸ hperm, fun heq => ?_⟩
  have hnil : overlooked stubs asyncStubs = [] := heq_iff.mp heq
  rw [hfound] at hnil
  cases hnil

/-- Two blank lines are right above the ordinary method and too many above the other one. -/
theorem blankLineFindings_stubs_differ :
    let source :=
      "class I:\n    def a():\n        '''A.'''\n\n\n    async def b():\n        pass\n".toList
    (scan source).logical = asyncStubs ∧
      List.Forall₂ Respelt stubs asyncStubs ∧ blankLineFindings 1 stubs = [] ∧
      blankLineFindings 1 asyncStubs = [⟨tooManyAfterDocstring.code, 6, 5, some "2"⟩] :=
  ⟨by decide, respelt_stubs, by decide, by decide⟩

end CodingStandard.Spacing
