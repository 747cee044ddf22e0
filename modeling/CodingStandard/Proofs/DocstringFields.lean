import CodingStandard.Proofs.DocstringFindings
import CodingStandard.Proofs.Fields

namespace CodingStandard.DocstringRule

/-!
# What docstrings say about parameters

A docstring owes a field to every parameter of its function, but for the receiver of a method and
the value of a setter. Before its first field stands a blank line.
-/

variable {settings : Settings} {m : Module} {node : Nat} {doc : Docstring} {f : FunctionDef}

/-! ## Parameters -/

/-- A docstring describes a parameter by a field of a tag, if a field can have its name. -/
def Describes (doc : Docstring) (tag : String) (p : Param) : Prop :=
  Markup.IsWord p.name.toList ∧ Markup.Names tag.toList p.name.toList doc.value

instance (tag : String) (p : Param) : Decidable (Describes doc tag p) :=
  decidable_of_iff (Markup.documents tag doc.value p.name = true) Markup.documents_iff

theorem documents_eq_decide (doc : Docstring) (tag : String) (p : Param) :
    Markup.documents tag doc.value p.name = decide (Describes doc tag p) := by
  rw [Bool.eq_iff_iff, decide_eq_true_iff]
  exact Markup.documents_iff

theorem only_missingParam_ofParam (settings : Settings) (m : Module) (node : Nat)
    (doc : Docstring) (p : Param) :
    Emission.only missingParam.code (ofParam settings m node doc p) =
      if ¬ Describes doc "@param" p then [.about m node missingParam.code doc.place.line [p.name]]
      else [] := by
  rw [ofParam, documents_eq_decide, documents_eq_decide]
  by_cases hparam : Describes doc "@param" p <;>
    by_cases htype : (!settings.strict || decide (Describes doc "@type" p)) = true <;>
      simp [hparam, htype, Emission.only, Emission.about, missingParam, missingType]

theorem only_missingType_ofParam (settings : Settings) (m : Module) (node : Nat)
    (doc : Docstring) (p : Param) :
    Emission.only missingType.code (ofParam settings m node doc p) =
      if settings.strict ∧ ¬ Describes doc "@type" p then
        [.about m node missingType.code doc.place.line [p.name]]
      else [] := by
  rw [ofParam, documents_eq_decide, documents_eq_decide]
  by_cases hparam : Describes doc "@param" p <;> by_cases hstrict : settings.strict = true <;>
    by_cases htype : Describes doc "@type" p <;>
      simp [hparam, hstrict, htype, Emission.only, Emission.about, missingParam, missingType]

theorem flatMap_ite_singleton {α β : Type} (p : α → Prop) [DecidablePred p] (g : α → β)
    (l : List α) : (l.flatMap fun a => if p a then [g a] else []) = (l.filter p).map g := by
  induction l with
  | nil => rfl
  | cons a l ih => by_cases ha : p a <;> simp [ha, ih]

theorem documentedParams_eq (m : Module) (node : Nat) (f : FunctionDef) :
    documentedParams m node f =
      (if m.isMethod node ∧ ¬ f.hasDecorator "staticmethod" then f.params.tail else f.params).filter
        fun p => ¬ (f.hasDecoratorEnding ".setter" ∧ p.kind = .regular ∧ p.name = "value") := by
  unfold documentedParams
  by_cases hsetter : f.hasDecoratorEnding ".setter" = true
  · simp [hsetter, Bool.beq_eq_decide_eq]
  · simp [hsetter]

theorem only_ofReturn_eq_nil {code : String} (h : code ∈ [missingParam.code, missingType.code]) :
    Emission.only code (ofReturn settings m node f doc) = [] := by
  have hother : ∀ code ∈ [missingParam.code, missingType.code],
      code ∉ [missingReturn.code, missingReturnType.code] := by decide
  exact Emission.only_eq_nil fun hmem =>
    hother code h ((messages_ofReturn settings m node f doc).subset hmem)

/-- For each parameter of a function that is neither the receiver of a method nor the value of a
setter, in their order, a field is asked for if the docstring does not describe the parameter. -/
theorem enter_demandsFields (settings : Settings) (site : Site) (lib : Library)
    (f : FunctionDef) (doc : Docstring) (hf : site.home.function? site.node = some f)
    (h : Examined settings site.home site.node doc)
    (hname : ¬ settings.optionStart.toList <+: f.name.toList) :
    let own := if site.home.isMethod site.node ∧ ¬ f.hasDecorator "staticmethod" then f.params.tail
      else f.params
    let owed := own.filter fun p =>
      ¬ (f.hasDecoratorEnding ".setter" ∧ p.kind = .regular ∧ p.name = "value")
    let emitted code := Emission.only code ((checker settings).enter site lib).emissions
    let asking code (p : Param) : Emission :=
      .about site.home site.node code doc.place.line [p.name]
    emitted missingParam.code =
        (owed.filter fun p => ¬ Describes doc "@param" p).map (asking missingParam.code) ∧
      emitted missingType.code =
        (owed.filter fun p => settings.strict ∧ ¬ Describes doc "@type" p).map
          (asking missingType.code) := by
  intro own owed emitted asking
  have howed : documentedParams site.home site.node f = owed :=
    documentedParams_eq site.home site.node f
  have hfields : ofFields settings site.home site.node doc =
      owed.flatMap (ofParam settings site.home site.node doc) ++
        ofReturn settings site.home site.node f doc := by
    rw [ofFields, hf]
    dsimp only
    rw [if_neg fun hstarts => hname (Text.startsWith_iff.mp hstarts), howed]
  have hemitted : ∀ code ∈ [missingParam.code, missingType.code], emitted code =
      owed.flatMap fun p => Emission.only code (ofParam settings site.home site.node doc p) := by
    intro code hcode
    calc emitted code
        = Emission.only code (ofFields settings site.home site.node doc) :=
          h.only_fields (List.mem_append_left [missingReturn.code, missingReturnType.code] hcode)
      _ = Emission.only code (owed.flatMap (ofParam settings site.home site.node doc)) := by
          rw [hfields, Emission.only_append, only_ofReturn_eq_nil hcode, List.append_nil]
      _ = _ := List.filter_flatMap ..
  constructor
  · rw [hemitted _ (by simp)]
    simp only [only_missingParam_ofParam]
    exact flatMap_ite_singleton (fun p => ¬ Describes doc "@param" p) _ owed
  · rw [hemitted _ (by simp)]
    simp only [only_missingType_ofParam]
    exact flatMap_ite_singleton (fun p => settings.strict ∧ ¬ Describes doc "@type" p) _ owed

/-- A function with two parameters and a field for each of them. The one name has a letter that no
name in a field has. -/
def accented : Site :=
  let literal := "\"\"\"\n    F.\n\n    @param a: one\n    @param é: two\n    \"\"\""
  siteOf ("def f(a, é):\n    " ++ literal ++ "\n")
    (.node .file .plain ⟨1, 0⟩ []
      [.node .functionDefinition .plain ⟨1, 0⟩ []
        [.node .identifier .name ⟨1, 4⟩ "f".toList [],
          .node .parameters .parameters ⟨1, 5⟩ "(a, é)".toList
            [.node .identifier .plain ⟨1, 6⟩ "a".toList [],
              .node .identifier .plain ⟨1, 9⟩ "é".toList []],
          .node .block .body ⟨2, 4⟩ []
            [.node .expressionStatement .plain ⟨2, 4⟩ []
              [.node .string .plain ⟨2, 4⟩ literal.toList []]]]])
    1

theorem enter_demandsFields_accented :
    ∃ f doc, accented.home.function? 1 = some f ∧ Examined .default accented.home 1 doc ∧
      ¬ Settings.default.optionStart.toList <+: f.name.toList ∧
      Emission.only missingParam.code ((checker .default).enter accented default).emissions =
        [.about accented.home 1 missingParam.code 2 ["é"]] ∧
      Emission.only missingType.code ((checker .default).enter accented default).emissions =
        [.about accented.home 1 missingType.code 2 ["a"],
          .about accented.home 1 missingType.code 2 ["é"]] := by
  have hf : accented.home.function? 1 = some _ := rfl
  have hexamined : Examined .default accented.home 1 _ :=
    ⟨rfl, by decide +kernel, by decide +kernel⟩
  have hname : ¬ Settings.default.optionStart.toList <+: "f".toList := by decide
  obtain ⟨hparam, htype⟩ := enter_demandsFields .default accented default _ _ hf hexamined hname
  exact ⟨_, _, hf, hexamined, hname, hparam.trans (by decide +kernel),
    htype.trans (by decide +kernel)⟩

/-- A parameter that has a field is asked for all the same. -/
theorem enter_overlooks_accented :
    ∃ doc, accented.home.doc? 1 = some doc ∧
      Markup.Names "@param".toList "é".toList doc.value ∧
      (Emission.only missingParam.code ((checker .default).enter accented default).emissions).map
        (·.args) = [["é"]] := by
  refine ⟨_, rfl, ?_, by decide +kernel⟩
  exact ⟨"\n    F.\n\n    @param a: one\n    ".toList, [' '], [], " two\n    ".toList, rfl,
    by simp, rfl, rfl⟩

/-! ## The blank line -/

/-- A blank line is asked for, and then once, if the first line that opens with a field follows the
line of the quotes or a line that is not blank. -/
theorem enter_separatesFields (settings : Settings) (site : Site) (lib : Library)
    (doc : Docstring) (h : Examined settings site.home site.node doc) :
    let lines := List.splitOn '\n' doc.value
    let crowded := ∃ k, Markup.FirstField lines k ∧
      ¬ (2 ≤ k ∧ ∃ line, lines[k - 1]? = some line ∧ Text.isWhite line = true)
    let emitted :=
      Emission.only missingBlankLine.code ((checker settings).enter site lib).emissions
    (crowded →
        emitted = [.about site.home site.node missingBlankLine.code doc.place.line []]) ∧
      (¬ crowded → emitted = []) := by
  intro lines crowded emitted
  have hcrowded : Markup.lacksBlankLine doc.value = true ↔ crowded := Markup.lacksBlankLine_iff
  have hemitted : emitted = ofBlankLine site.home site.node doc := h.only_blankLine
  rw [hemitted, ofBlankLine]
  exact ⟨fun hlacks => if_pos (hcrowded.mpr hlacks), fun hparted => if_neg (hparted ∘ hcrowded.mp)⟩

/-- A module whose docstring has a field on the line after its only line of prose. -/
def crowded : Site :=
  let literal := "\"\"\"\nM.\n@return: x\n\"\"\""
  siteOf (literal ++ "\n")
    (.node .file .plain ⟨1, 0⟩ []
      [.node .expressionStatement .plain ⟨1, 0⟩ []
        [.node .string .plain ⟨1, 0⟩ literal.toList []]])
    0

theorem enter_separatesFields_crowded :
    ∃ doc, Examined .default crowded.home 0 doc ∧
      Emission.only missingBlankLine.code ((checker .default).enter crowded default).emissions =
        [.about crowded.home 0 missingBlankLine.code 1 []] := by
  have hexamined : Examined .default crowded.home 0 _ :=
    ⟨rfl, by decide +kernel, by decide +kernel⟩
  refine ⟨_, hexamined, (enter_separatesFields .default crowded default _ hexamined).1 ?_⟩
  refine ⟨2, ⟨by decide, Markup.startsWithField_iff.mp (by decide +kernel), fun j hj hj' => ?_⟩, ?_⟩
  · obtain rfl : j = 1 := by omega
    exact fun hopens => absurd (Markup.startsWithField_iff.mpr hopens) (by decide +kernel)
  · rintro ⟨-, line, hline, hwhite⟩
    obtain rfl := Option.some.inj hline
    exact absurd hwhite (by decide +kernel)

end CodingStandard.DocstringRule
