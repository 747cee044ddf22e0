import CodingStandard.Proofs.Filtering
import CodingStandard.Proofs.Methods
import CodingStandard.Proofs.MissingDocstring

namespace CodingStandard

/-!
# What is found about a docstring

Every message about a docstring comes from one part of the check: the layout, the fields of the
parameters, the fields of the result, or the blank line before the fields. The main statement looks
at whole checks: what is reported about a node is nothing, a missing docstring, an empty one, or
faults in its lines, and never a mixture of these.
-/

/-- The emissions of one message. -/
def Emission.only (code : String) (es : List Emission) : List Emission :=
  es.filter (·.message == code)

namespace Emission

variable {code : String} {es : List Emission}

@[simp] theorem only_append (code : String) (front back : List Emission) :
    only code (front ++ back) = only code front ++ only code back :=
  List.filter_append ..

theorem only_eq_nil (h : code ∉ es.map (·.message)) : only code es = [] :=
  List.filter_eq_nil_iff.mpr fun _ he hcode =>
    h (List.mem_map.mpr ⟨_, he, beq_iff_eq.mp hcode⟩)

theorem only_eq_self (h : ∀ e ∈ es, e.message = code) : only code es = es :=
  List.filter_eq_self.mpr fun e he => by simpa using h e he

end Emission

namespace DocstringRule

/-- The messages about the quotes of a docstring and its indentation. -/
def layoutCodes : List String := [notIsolated.code, inconsistentIndentation.code]

/-- The messages about the fields of parameters and results. -/
def fieldCodes : List String := [
  missingParam.code, missingType.code, missingReturn.code, missingReturnType.code]

/-- The messages about a docstring that are emitted for it once at most. -/
def onceCodes : List String := [
  notIsolated.code, missingReturn.code, missingReturnType.code, missingBlankLine.code]

variable {settings : Settings} {m : Module} {lib : Library} {node : Nat} {doc : Docstring}

/-! ## The parts of a check -/

theorem messages_ofLayout (m : Module) (node : Nat) (doc : Docstring) :
    (ofLayout m node doc).map (·.message) = [notIsolated.code] ∨
      ∃ k, (ofLayout m node doc).map (·.message) =
        List.replicate k inconsistentIndentation.code := by
  unfold ofLayout
  split
  · refine .inr ⟨(misindentedLines (expectedIndent m node) doc).length, ?_⟩
    rw [List.map_map]
    exact List.map_const' ..
  · exact .inl rfl

theorem messages_ofParam (settings : Settings) (m : Module) (node : Nat) (doc : Docstring)
    (p : Param) :
    ((ofParam settings m node doc p).map (·.message)).Sublist
      [missingParam.code, missingType.code] := by
  unfold ofParam
  split <;> split <;> simp

theorem messages_ofReturn (settings : Settings) (m : Module) (node : Nat) (f : FunctionDef)
    (doc : Docstring) :
    ((ofReturn settings m node f doc).map (·.message)).Sublist
      [missingReturn.code, missingReturnType.code] := by
  unfold ofReturn
  split
  · split <;> split <;> simp
  · simp

theorem messages_ofBlankLine (m : Module) (node : Nat) (doc : Docstring) :
    ((ofBlankLine m node doc).map (·.message)).Sublist [missingBlankLine.code] := by
  unfold ofBlankLine
  split <;> simp

/-- The docstring of a node is looked at: its node is not ignored, and it is not blank. -/
structure Examined (settings : Settings) (m : Module) (node : Nat) (doc : Docstring) : Prop where
  found : m.doc? node = some doc
  notIgnored : isIgnored settings m node = false
  notBlank : Text.isWhite doc.value = false

theorem Examined.visit_eq (h : Examined settings m node doc) (lib : Library) :
    visit settings m lib node = .emitting lib
      (ofLayout m node doc ++ ofFields settings m node doc ++ ofBlankLine m node doc) := by
  rw [visit, if_neg (by simp [h.notIgnored]), h.found]
  dsimp only
  rw [ofDocstring, if_neg (by simp [h.notBlank])]

/-! ## Faults of a docstring -/

theorem exists_messages_ofFields (settings : Settings) (m : Module) (node : Nat)
    (doc : Docstring) :
    ofFields settings m node doc = [] ∨
      ∃ f, m.function? node = some f ∧ ∃ params : List String,
        (∀ code ∈ params, code ∈ [missingParam.code, missingType.code]) ∧
        (ofFields settings m node doc).map (·.message) =
          params ++ (ofReturn settings m node f doc).map (·.message) := by
  unfold ofFields
  split
  · exact .inl rfl
  · next f hf =>
      split
      · exact .inl rfl
      · refine .inr ⟨f, hf, _, ?_, List.map_append ..⟩
        intro code hcode
        obtain ⟨e, he, rfl⟩ := List.mem_map.mp hcode
        obtain ⟨p, -, he⟩ := List.mem_flatMap.mp he
        exact (messages_ofParam settings m node doc p).subset (List.mem_map_of_mem he)

theorem mem_messages_ofFields {code : String}
    (h : code ∈ (ofFields settings m node doc).map (·.message)) :
    code ∈ fieldCodes ∧ m.isKind NodeKind.isFunction node = true := by
  rcases exists_messages_ofFields settings m node doc with hnil | ⟨f, hf, params, hparams, hcodes⟩
  · simp [hnil] at h
  refine ⟨?_, Module.isKind_isFunction_iff.mpr ⟨f, Module.function?_eq_some_iff.mp hf⟩⟩
  rw [hcodes, List.mem_append] at h
  rcases h with h | h
  · exact List.mem_append_left [missingReturn.code, missingReturnType.code] (hparams code h)
  · exact List.mem_append_right [missingParam.code, missingType.code]
      ((messages_ofReturn settings m node f doc).subset h)

theorem count_messages_ofFields (settings : Settings) (m : Module) (node : Nat)
    (doc : Docstring) {code : String} (h : code ∈ [missingReturn.code, missingReturnType.code]) :
    ((ofFields settings m node doc).map (·.message)).count code ≤ 1 := by
  rcases exists_messages_ofFields settings m node doc with hnil | ⟨f, -, params, hparams, hcodes⟩
  · simp [hnil]
  · have hother : ∀ code ∈ [missingReturn.code, missingReturnType.code],
        code ∉ [missingParam.code, missingType.code] := by decide
    have honce : ∀ code ∈ [missingReturn.code, missingReturnType.code],
        [missingReturn.code, missingReturnType.code].count code ≤ 1 := by decide
    rw [hcodes, List.count_append,
      List.count_eq_zero_of_not_mem fun hmem => hother code h (hparams code hmem), Nat.zero_add]
    exact ((messages_ofReturn settings m node f doc).count_le code).trans (honce code h)

/-- What is reported about a docstring with faults: messages about its lines, either about its
quotes or about its indentation, most of them once, and those about fields for a function only. -/
structure Faulty (m : Module) (node : Nat) (codes : List String) : Prop where
  ne_nil : codes ≠ []
  onLines : ∀ code ∈ codes, code ∈ lineCodes
  apart : notIsolated.code ∈ codes → inconsistentIndentation.code ∉ codes
  once : ∀ code ∈ onceCodes, codes.count code ≤ 1
  function : ∀ code ∈ fieldCodes, code ∈ codes → m.isKind NodeKind.isFunction node = true

/-- The codes of what the three parts of a check of one docstring emit. -/
structure Parts (m : Module) (node : Nat) (layout fields blank : List String) : Prop where
  quotesOrLines : layout = [notIsolated.code] ∨
    ∃ k, layout = List.replicate k inconsistentIndentation.code
  onFunction : ∀ code ∈ fields, code ∈ fieldCodes ∧ m.isKind NodeKind.isFunction node = true
  returnsOnce : ∀ code ∈ [missingReturn.code, missingReturnType.code], fields.count code ≤ 1
  blankOnce : blank.Sublist [missingBlankLine.code]

theorem parts (settings : Settings) (m : Module) (node : Nat) (doc : Docstring) :
    Parts m node ((ofLayout m node doc).map (·.message))
      ((ofFields settings m node doc).map (·.message))
      ((ofBlankLine m node doc).map (·.message)) :=
  ⟨messages_ofLayout m node doc, fun _ => mem_messages_ofFields,
    fun _ => count_messages_ofFields settings m node doc, messages_ofBlankLine m node doc⟩

/-! No message comes from two of the parts. -/

namespace Parts

variable {layout fields blank : List String} {code : String}

theorem mem_layout (h : Parts m node layout fields blank) (hcode : code ∈ layout) :
    code ∈ layoutCodes := by
  rcases h.quotesOrLines with rfl | ⟨k, rfl⟩
  · exact List.mem_cons.mpr (.inl (List.mem_singleton.mp hcode))
  · exact List.mem_cons_of_mem _ (List.mem_singleton.mpr (List.eq_of_mem_replicate hcode))

theorem of_mem_layoutCodes (h : Parts m node layout fields blank) (hcode : code ∈ layoutCodes) :
    code ∉ fields ∧ code ∉ blank := by
  have hother : ∀ code ∈ layoutCodes, code ∉ fieldCodes ∧ code ∉ [missingBlankLine.code] := by
    decide
  exact ⟨fun hmem => (hother code hcode).1 (h.onFunction code hmem).1,
    fun hmem => (hother code hcode).2 (h.blankOnce.subset hmem)⟩

theorem of_mem_fieldCodes (h : Parts m node layout fields blank) (hcode : code ∈ fieldCodes) :
    code ∉ layout ∧ code ∉ blank := by
  have hother : ∀ code ∈ fieldCodes, code ∉ layoutCodes ∧ code ∉ [missingBlankLine.code] := by
    decide
  exact ⟨fun hmem => (hother code hcode).1 (h.mem_layout hmem),
    fun hmem => (hother code hcode).2 (h.blankOnce.subset hmem)⟩

theorem missingBlankLine_not_mem (h : Parts m node layout fields blank) :
    missingBlankLine.code ∉ layout ∧ missingBlankLine.code ∉ fields :=
  ⟨fun hmem => absurd (h.mem_layout hmem) (by decide),
    fun hmem => absurd (h.onFunction _ hmem).1 (by decide)⟩

theorem mem_lineCodes (h : Parts m node layout fields blank)
    (hcode : code ∈ layout ++ fields ++ blank) : code ∈ lineCodes := by
  have hlines : ∀ code ∈ layoutCodes ++ fieldCodes ++ [missingBlankLine.code],
      code ∈ lineCodes := by decide
  apply hlines
  rw [List.mem_append, List.mem_append] at hcode ⊢
  exact hcode.imp (Or.imp h.mem_layout fun hmem => (h.onFunction code hmem).1)
    (h.blankOnce.subset ·)

theorem apart (h : Parts m node layout fields blank)
    (hone : notIsolated.code ∈ layout ++ fields ++ blank) :
    inconsistentIndentation.code ∉ layout ++ fields ++ blank := by
  intro hmany
  -- Both messages come from the layout, and a layout is blamed for one of two things only.
  have hin : ∀ code ∈ layoutCodes, code ∈ layout ++ fields ++ blank → code ∈ layout :=
    fun code hcode hmem => by simpa [h.of_mem_layoutCodes hcode] using hmem
  rcases h.quotesOrLines with rfl | ⟨k, rfl⟩
  · exact absurd (List.mem_singleton.mp (hin _ (by simp [layoutCodes]) hmany)) (by decide)
  · exact absurd (List.eq_of_mem_replicate (hin _ (by simp [layoutCodes]) hone)) (by decide)

theorem count_le_one (h : Parts m node layout fields blank) (hcode : code ∈ onceCodes) :
    (layout ++ fields ++ blank).count code ≤ 1 := by
  have hcases : code = notIsolated.code ∨ code ∈ [missingReturn.code, missingReturnType.code] ∨
      code = missingBlankLine.code := by
    simpa [onceCodes, or_assoc] using hcode
  rw [List.count_append, List.count_append]
  rcases hcases with rfl | hreturn | rfl
  · have hquotes : notIsolated.code ∈ layoutCodes := by simp [layoutCodes]
    obtain ⟨hfields, hblank⟩ := h.of_mem_layoutCodes hquotes
    rw [List.count_eq_zero_of_not_mem hfields, List.count_eq_zero_of_not_mem hblank]
    rcases h.quotesOrLines with rfl | ⟨k, rfl⟩
    · simp
    · simp [List.count_replicate, notIsolated, inconsistentIndentation]
  · obtain ⟨hlayout, hblank⟩ := h.of_mem_fieldCodes
      (List.mem_append_right [missingParam.code, missingType.code] hreturn)
    rw [List.count_eq_zero_of_not_mem hlayout, List.count_eq_zero_of_not_mem hblank]
    simpa using h.returnsOnce code hreturn
  · obtain ⟨hlayout, hfields⟩ := h.missingBlankLine_not_mem
    rw [List.count_eq_zero_of_not_mem hlayout, List.count_eq_zero_of_not_mem hfields]
    simpa using h.blankOnce.count_le missingBlankLine.code

theorem faulty (h : Parts m node layout fields blank) (hne : layout ++ fields ++ blank ≠ []) :
    Faulty m node (layout ++ fields ++ blank) where
  ne_nil := hne
  onLines _ := h.mem_lineCodes
  apart := h.apart
  once _ := h.count_le_one
  function code hcode hmem := by
    have hin : code ∈ fields := by simpa [h.of_mem_fieldCodes hcode] using hmem
    exact (h.onFunction code hin).2

end Parts

theorem faulty_of_examined
    (hne : ofLayout m node doc ++ ofFields settings m node doc ++ ofBlankLine m node doc ≠ []) :
    Faulty m node
      ((ofLayout m node doc ++ ofFields settings m node doc ++ ofBlankLine m node doc).map
        (·.message)) := by
  rw [List.map_append, List.map_append]
  exact (parts settings m node doc).faulty (by simpa using hne)

namespace Examined

variable {code : String}

theorem only_layout (h : Examined settings m node doc) (hcode : code ∈ layoutCodes) :
    Emission.only code (visit settings m lib node).emissions =
      Emission.only code (ofLayout m node doc) := by
  obtain ⟨hfields, hblank⟩ := (parts settings m node doc).of_mem_layoutCodes hcode
  rw [h.visit_eq, Visit.emitting, Emission.only_append, Emission.only_append,
    Emission.only_eq_nil hfields, Emission.only_eq_nil hblank, List.append_nil, List.append_nil]

theorem only_fields (h : Examined settings m node doc) (hcode : code ∈ fieldCodes) :
    Emission.only code (visit settings m lib node).emissions =
      Emission.only code (ofFields settings m node doc) := by
  obtain ⟨hlayout, hblank⟩ := (parts settings m node doc).of_mem_fieldCodes hcode
  rw [h.visit_eq, Visit.emitting, Emission.only_append, Emission.only_append,
    Emission.only_eq_nil hlayout, Emission.only_eq_nil hblank, List.nil_append, List.append_nil]

theorem only_blankLine (h : Examined settings m node doc) :
    Emission.only missingBlankLine.code (visit settings m lib node).emissions =
      ofBlankLine m node doc := by
  obtain ⟨hlayout, hfields⟩ := (parts settings m node doc).missingBlankLine_not_mem
  rw [h.visit_eq, Visit.emitting, Emission.only_append, Emission.only_append,
    Emission.only_eq_nil hlayout, Emission.only_eq_nil hfields, List.nil_append, List.nil_append]
  refine Emission.only_eq_self fun e he => ?_
  exact List.mem_singleton.mp
    ((messages_ofBlankLine m node doc).subset (List.mem_map_of_mem he))

end Examined

/-! ## The outcomes of a visit -/

/-- What a visit comes to. -/
inductive Outcome where
  | silent
  | missing
  | empty
  | faulty
  deriving DecidableEq, Repr

/-- Why nothing is reported about a node, in a check that ends as given. -/
inductive Spared (settings : Settings) (m : Module) (lib : Library) (node : Nat)
    (ending : Option CheckError) : Prop where
  | ignored (h : isIgnored settings m node = true)
  | exempt (hdoc : m.doc? node = none) (h : isExempt m node = true)
  | excused (hdoc : m.doc? node = none) (h : (Interface.documents m lib node).1 = .ok true)
  | aborting (hdoc : m.doc? node = none) (e : CheckError)
      (h : (Interface.documents m lib node).1 = .error e) (hending : ending = some e)
  | flawless (doc : Docstring) (h : Examined settings m node doc)

/-- The codes of the messages about a node make up an outcome. -/
def Falls (settings : Settings) (m : Module) (lib : Library) (node : Nat)
    (ending : Option CheckError) (codes : List String) : Outcome → Prop
  | .silent => codes = [] ∧ Spared settings m lib node ending
  | .missing => codes = [missingDocstring.code] ∧ m.doc? node = none
  | .empty => codes = [emptyDocstring.code] ∧ isIgnored settings m node = false ∧
      ∃ doc, m.doc? node = some doc ∧ Text.isWhite doc.value = true
  | .faulty => Faulty m node codes ∧ ∃ doc, Examined settings m node doc

/-- The outcome that codes can make up at all. -/
def Outcome.ofCodes (codes : List String) : Outcome :=
  if codes = [] then .silent
  else if codes = [missingDocstring.code] then .missing
  else if codes = [emptyDocstring.code] then .empty
  else .faulty

variable {ending : Option CheckError} {outcome : Outcome} {codes : List String}

theorem Faulty.ne_singleton (h : Faulty m node codes) {code : String} (hcode : code ∉ lineCodes) :
    codes ≠ [code] := by
  rintro rfl
  exact hcode (h.onLines code (List.mem_singleton_self code))

theorem Falls.eq_ofCodes (h : Falls settings m lib node ending codes outcome) :
    outcome = .ofCodes codes := by
  cases outcome with
  | silent => rw [h.1, Outcome.ofCodes, if_pos rfl]
  | missing => rw [h.1, Outcome.ofCodes, if_neg (by simp), if_pos rfl]
  | empty => rw [h.1, Outcome.ofCodes, if_neg (by simp), if_neg (by decide), if_pos rfl]
  | faulty =>
      rw [Outcome.ofCodes, if_neg h.1.ne_nil, if_neg (h.1.ne_singleton (by decide)),
        if_neg (h.1.ne_singleton (by decide))]

theorem exists_falls_visit (settings : Settings) (m : Module) (lib : Library) (node : Nat)
    (hending : ∀ e, (visit settings m lib node).error = some e → ending = some e) :
    ∃ outcome, Falls settings m lib node ending
      ((visit settings m lib node).emissions.map (·.message)) outcome := by
  by_cases hignored : isIgnored settings m node = true
  · rw [visit, if_pos hignored]
    exact ⟨.silent, rfl, .ignored hignored⟩
  rw [Bool.not_eq_true] at hignored
  cases hdoc : m.doc? node with
  | some doc =>
      by_cases hblank : Text.isWhite doc.value = true
      · rw [visit, if_neg (by simp [hignored]), hdoc]
        dsimp only
        rw [ofDocstring, if_pos hblank]
        exact ⟨.empty, rfl, hignored, doc, hdoc, hblank⟩
      · have hexamined : Examined settings m node doc := ⟨hdoc, hignored, by simpa using hblank⟩
        rw [hexamined.visit_eq]
        by_cases hclean :
            ofLayout m node doc ++ ofFields settings m node doc ++ ofBlankLine m node doc = []
        · rw [hclean]
          exact ⟨.silent, rfl, .flawless doc hexamined⟩
        · exact ⟨.faulty, faulty_of_examined hclean, doc, hexamined⟩
  | none =>
      have hvisit : visit settings m lib node = visitMissing m lib node := by
        rw [visit, if_neg (by simp [hignored]), hdoc]
      rw [hvisit] at hending ⊢
      by_cases hexempt : isExempt m node = true
      · rw [visitMissing, if_pos hexempt]
        exact ⟨.silent, rfl, .exempt hdoc hexempt⟩
      rw [visitMissing, if_neg hexempt] at hending ⊢
      -- An interface may have the docstring, and the search for it may end the whole check.
      rcases hanswer : Interface.documents m lib node with ⟨e | _ | _, lib'⟩
      · exact ⟨.silent, rfl, .aborting hdoc e (by rw [hanswer]) (hending e (by rw [hanswer]))⟩
      · exact ⟨.missing, rfl, hdoc⟩
      · exact ⟨.silent, rfl, .excused hdoc (by rw [hanswer])⟩

theorem messages_visit_eq_empty_iff :
    (visit settings m lib node).emissions.map (·.message) = [emptyDocstring.code] ↔
      isIgnored settings m node = false ∧
        ∃ doc, m.doc? node = some doc ∧ Text.isWhite doc.value = true := by
  constructor
  · intro hcodes
    obtain ⟨outcome, hfalls⟩ := exists_falls_visit settings m lib node fun e he => he
    obtain rfl : outcome = .empty := by
      rw [hfalls.eq_ofCodes, hcodes]
      decide
    exact hfalls.2
  · rintro ⟨hignored, doc, hdoc, hblank⟩
    rw [visit, if_neg (by simp [hignored]), hdoc]
    dsimp only
    rw [ofDocstring, if_pos hblank]
    rfl

theorem node_of_mem_visit {e : Emission} (h : e ∈ (visit settings m lib node).emissions) :
    e.node = some node := by
  rcases of_mem_visit h with ⟨code, -, line, args, rfl⟩ | ⟨code, -, rfl⟩ <;> rfl

/-- A visit to a node of a module with the source and the tree given. -/
def siteOf (source : String) (tree : Tree) (node : Nat) : Site where
  file := ⟨.ofString "m.py", source.toList, "m", .ofString "m.py"⟩
  home := .ofTree "m" (.ofString "m.py") source.toList tree
  lines := scan source.toList
  node := node
  attempted := []

end DocstringRule

/-! ## Whole checks -/

namespace Builtin

theorem hooks_nodup {c : Checker} (h : Builtin c) : c.hooks.Nodup := by
  cases h with
  | header notice => exact List.nodup_singleton _
  | spacing limit => exact List.nodup_singleton _
  | docstring settings => simp [DocstringRule.checker]
  | names => simp [Names.checker]
  | comments => exact List.nodup_singleton _
  | formatting => exact List.nodup_singleton _
  | python3 => simp [Python3.checker]
  | testClass => simp [TestClass.checker]

end Builtin

namespace Linter

open DocstringRule

theorem nodup_schedule {linter : Linter} (h : linter.checkers.Nodup) (m : Module) :
    (linter.schedule m).Nodup := by
  refine List.nodup_flatMap.mpr ⟨fun id _ => ?_, ?_⟩
  · exact (h.filter _).map fun c d heq => (Prod.mk.inj heq).2
  · refine List.nodup_range.imp fun hne => ?_
    intro x hx hx'
    obtain ⟨c, -, rfl⟩ := List.mem_map.mp hx
    obtain ⟨d, -, heq⟩ := List.mem_map.mp hx'
    exact hne (Prod.mk.inj heq).1.symm

/-- Of what calls that differ leave, one call accounts for the part that the others add nothing
to. -/
theorem filter_flatMap_calls {calls : List CallRecord}
    (hnodup : (calls.map fun r => (r.node, r.checker)).Nodup) {r : CallRecord} (hr : r ∈ calls)
    {left : CallRecord → List Violation} {p : Violation → Bool}
    (hother : ∀ x ∈ calls, (x.node, x.checker) ≠ (r.node, r.checker) → (left x).filter p = []) :
    (calls.flatMap left).filter p = (left r).filter p := by
  obtain ⟨front, back, rfl⟩ := List.append_of_mem hr
  rw [List.map_append, List.map_cons, List.nodup_middle, List.nodup_cons,
    ← List.map_append] at hnodup
  have hnone : ∀ part : List CallRecord, (∀ x ∈ part, x ∈ front ++ back) →
      (part.flatMap left).filter p = [] := by
    intro part hpart
    rw [List.filter_flatMap, List.flatMap_eq_nil_iff]
    intro x hx
    have hmem := hpart x hx
    refine hother x (by simp at hmem ⊢; tauto) fun heq => hnodup.1 ?_
    exact List.mem_map.mpr ⟨x, hmem, heq⟩
  rw [List.flatMap_append, List.flatMap_cons, List.filter_append, List.filter_append,
    hnone front fun x => List.mem_append_left _, hnone back fun x => List.mem_append_right _]
  simp

theorem logCheck_spec (linter : Linter) (file : SourceFile) (m : Module) (lib : Library) :
    Linked file m (linter.start file (scan m.source) lib) (linter.logCheck file m lib).calls
        (linter.logCheck file m lib).progress ∧
      CutAtFailure file m (linter.agenda m) (linter.logCheck file m lib).calls := by
  obtain ⟨made, hcalls, hlinked, hcut⟩ := exists_calls_of_untilFailed file m (linter.agenda m)
    ⟨[], linter.start file (scan m.source) lib⟩
  rw [← logCheck_eq_untilFailed, List.nil_append] at hcalls
  rw [← logCheck_eq_untilFailed, ← hcalls] at hlinked
  exact ⟨hlinked, hcalls ▸ hcut⟩

theorem violations_check (linter : Linter) (file : SourceFile) (m : Module) (lib : Library) :
    (linter.check file m lib).violations =
      (linter.logCheck file m lib).calls.flatMap fun r =>
        (r.visit file m).emissions.filterMap
          (linter.start file (scan m.source) lib).sink.reported? := by
  rw [← report_logCheck, Progress.report, (linter.logCheck_spec file m lib).1.sink_eq]
  rfl

theorem error_check_of_mem_calls {linter : Linter} {file : SourceFile} {m : Module}
    {lib : Library} {r : CallRecord} (hr : r ∈ (linter.logCheck file m lib).calls)
    {e : CheckError} (herror : (r.visit file m).error = some e) :
    (linter.check file m lib).error = some e := by
  obtain ⟨hlinked, hcut⟩ := linter.logCheck_spec file m lib
  rw [← report_logCheck, Progress.report, hlinked.error_eq]
  have hne := List.ne_nil_of_mem hr
  have hlast : r = (linter.logCheck file m lib).calls.getLast hne := by
    rw [← List.dropLast_append_getLast hne, List.mem_append, List.mem_singleton] at hr
    refine hr.resolve_left fun hmem => ?_
    rw [hcut.clean r hmem] at herror
    cases herror
  rw [List.getLast?_eq_some_getLast hne, ← hlast, Option.map_some, Option.getD_some, herror]

/-- The checkers with all of their messages turned on. -/
def unfiltered (checkers : List Checker) : Linter :=
  ⟨checkers, ⟨entriesFor checkers⟩, .allEnabled ⟨entriesFor checkers⟩⟩

/-- The codes of what the checker of docstrings reports about a node. -/
def docstringCodes (report : FileReport) (node : Nat) : List String :=
  (report.violations.filter fun v => v.checker == "docstring" && v.node == some node).map (·.code)

section Unfiltered

variable {checkers : List Checker} {c : Checker} {settings : Settings} {file : SourceFile}
  {m : Module} {lib : Library}

/-- With all messages on, and no directive in the source, what a checker emits is reported. -/
theorem exists_reported (hbuiltin : ∀ c ∈ checkers, Builtin c)
    (hnames : (checkers.map Checker.name).Nodup)
    (hdirectives : ∀ line name, ¬ m.source.Disables line name) (hc : c ∈ checkers) {e : Emission}
    (he : e.message ∈ c.messages.map MessageDef.code) :
    ∃ v, ((unfiltered checkers).start file (scan m.source) lib).sink.reported? e = some v ∧
      v.code = e.message ∧ v.checker = c.name ∧ v.node = e.node := by
  obtain ⟨msg, hmsg, hcode⟩ := List.mem_map.mp he
  have hentry := mem_entriesFor hc hmsg
  have henabled : (Policy.allEnabled ⟨entriesFor checkers⟩).isEnabled msg.code = true :=
    List.contains_iff_mem.mpr (Catalog.mem_codes.mpr ⟨_, hentry, rfl⟩)
  have hreports : ((unfiltered checkers).start file (scan m.source) lib).sink.reports
      ⟨msg, c.name⟩ e.line = true :=
    Bool.and_eq_true_iff.mpr ⟨henabled, beq_iff_eq.mpr
      (Suppressions.check_ofScan_eq_reported_iff.mpr fun l _ name _ => hdirectives l name)⟩
  refine ⟨_, (Sink.reported?_of_mem (unambiguous_entriesFor hbuiltin hnames) hentry
    hcode.symm).trans (if_pos hreports), hcode, rfl, rfl⟩

theorem map_code_filterMap {es : List Emission} {report : Emission → Option Violation}
    (h : ∀ e ∈ es, ∃ v, report e = some v ∧ v.code = e.message) :
    (es.filterMap report).map (·.code) = es.map (·.message) := by
  induction es with
  | nil => rfl
  | cons e es ih =>
      rw [List.forall_mem_cons] at h
      obtain ⟨⟨v, hv, hcode⟩, hrest⟩ := h
      rw [List.filterMap_cons_some hv, List.map_cons, List.map_cons, hcode, ih hrest]

theorem Assembled.visit_eq {linter : Linter} (h : Assembled settings linter.checkers)
    {r : CallRecord} (hr : r ∈ (linter.logCheck file m lib).calls)
    (hname : r.checker.name = "docstring") :
    r.checker = checker settings ∧
      r.visit file m = visit settings m r.before.library r.node := by
  have hcut := (linter.logCheck_spec file m lib).2
  have hmem := mem_checkers_of_mem_agenda (hcut.order.subset (List.mem_map_of_mem hr))
  have hchecker : r.checker = checker settings := h.eq_checker hmem hname
  exact ⟨hchecker, by rw [CallRecord.visit, hchecker]; rfl⟩

theorem Assembled.docstringCodes_check (h : Assembled settings checkers)
    (hnodup : ((unfiltered checkers).agenda m).Nodup)
    (hdirectives : ∀ line name, ¬ m.source.Disables line name) {r : CallRecord}
    (hr : r ∈ ((unfiltered checkers).logCheck file m lib).calls)
    (hname : r.checker.name = "docstring") :
    docstringCodes ((unfiltered checkers).check file m lib) r.node =
      (visit settings m r.before.library r.node).emissions.map (·.message) := by
  obtain ⟨-, hcut⟩ := (unfiltered checkers).logCheck_spec file m lib
  have hmem : ∀ x ∈ ((unfiltered checkers).logCheck file m lib).calls, x.checker ∈ checkers :=
    fun x hx => mem_checkers_of_mem_agenda (hcut.order.subset (List.mem_map_of_mem hx))
  have hreported : ∀ x ∈ ((unfiltered checkers).logCheck file m lib).calls,
      ∀ e ∈ (x.visit file m).emissions, ∃ v,
        ((unfiltered checkers).start file (scan m.source) lib).sink.reported? e = some v ∧
          v.code = e.message ∧ v.checker = x.checker.name ∧ v.node = e.node := fun x hx e he =>
    exists_reported h.builtin h.names hdirectives (hmem x hx)
      ((h.builtin _ (hmem x hx)).discreet.emits_own _ _ e he)
  have hassembled : Assembled settings (unfiltered checkers).checkers := h
  obtain ⟨hchecker, hvisit⟩ := hassembled.visit_eq hr hname
  have hown := hreported r hr
  rw [hvisit] at hown
  rw [docstringCodes, violations_check,
    filter_flatMap_calls (hnodup.sublist hcut.order.sublist) hr, hvisit, List.filter_eq_self.mpr,
    map_code_filterMap]
  · intro e he
    obtain ⟨v, hv, hcode, -⟩ := hown e he
    exact ⟨v, hv, hcode⟩
  · intro v hv
    obtain ⟨e, he, hv⟩ := List.mem_filterMap.mp hv
    obtain ⟨v', hv', -, hchecker, hnode⟩ := hown e he
    obtain rfl := Option.some.inj (hv.symm.trans hv')
    simp [hchecker, hname, hnode, node_of_mem_visit he]
  · -- Another call is one of another checker, or for another node.
    intro x hx hne
    refine List.filter_eq_nil_iff.mpr fun v hv hp => ?_
    rw [Bool.and_eq_true, beq_iff_eq, beq_iff_eq] at hp
    obtain ⟨e, he, hv⟩ := List.mem_filterMap.mp hv
    obtain ⟨v', hv', -, hchecker', hnode⟩ := hreported x hx e he
    obtain rfl := Option.some.inj (hv.symm.trans hv')
    obtain ⟨hsame, hvisit'⟩ := hassembled.visit_eq hx (hchecker'.symm.trans hp.1)
    rw [hvisit'] at he
    rw [node_of_mem_visit he, hp.2, Option.some.injEq] at hnode
    exact hne (Prod.ext hnode.symm (hsame.trans hchecker.symm))

theorem Assembled.exists_call (h : Assembled settings checkers)
    (hm : m.preorder = List.range m.nodes.size)
    (herror : ((unfiltered checkers).check file m lib).error = none) {n : Nat} {kind : NodeKind}
    (hkind : m.kind? n = some kind) (htag : kind.tag ∈ (checker settings).hooks) :
    ∃ r ∈ ((unfiltered checkers).logCheck file m lib).calls,
      r.node = n ∧ r.checker.name = "docstring" := by
  obtain ⟨-, hcut⟩ := (unfiltered checkers).logCheck_spec file m lib
  have hall : (unfiltered checkers).agenda m =
      ((unfiltered checkers).logCheck file m lib).calls.map fun r => (r.node, r.checker) := by
    refine (hcut.order.eq_of_length_le ?_).symm
    -- Calls are left out behind one that failed only, and the check has not failed.
    by_contra hlt
    rw [List.length_map, not_le] at hlt
    obtain ⟨r, hr, hfailed⟩ := hcut.stopped hlt
    obtain ⟨e, he⟩ := Option.isSome_iff_exists.mp hfailed
    rw [error_check_of_mem_calls (List.mem_of_getLast? hr) he] at herror
    cases herror
  have hn : n < m.nodes.size := by
    by_contra hle
    simp [Module.kind?, Array.getElem?_eq_none (Nat.le_of_not_lt hle)] at hkind
  have hdue : (n, checker settings) ∈ (unfiltered checkers).agenda m := by
    rw [agenda, hm]
    exact List.mem_flatMap.mpr
      ⟨n, List.mem_range.mpr hn, mem_callsAt.mpr ⟨rfl, h.docstring, kind, hkind, htag⟩⟩
  obtain ⟨r, hr, hpair⟩ := List.mem_map.mp (hall ▸ hdue)
  obtain ⟨hnode, hchecker⟩ := Prod.mk.inj hpair
  exact ⟨r, hr, hnode, by rw [hchecker]; rfl⟩

end Unfiltered

/-- With all messages on, and no directive in the file, what the checker of docstrings reports
about a node that it visits is exactly one of these: nothing, a missing docstring, an empty one, or
the faults of a docstring. A docstring is reported as empty if and only if it is blank and its
node is not ignored. No node is passed over unless the check ends in an error. -/
theorem check_classifies (settings : Settings) (checkers : List Checker)
    (h : Assembled settings checkers) (file : SourceFile) (name : String) (path : Path)
    (tree : Tree) (lib : Library)
    (hdirectives : ∀ line name, ¬ Text.Disables file.content line name) :
    ∃ linter, build checkers .allEnabled = .ok linter ∧
      let m := Module.ofTree name path file.content tree
      let report := linter.check file m lib
      (∀ r ∈ (linter.logCheck file m lib).calls, r.checker.name = "docstring" →
        let codes := docstringCodes report r.node
        (∃! outcome, Falls settings m r.before.library r.node report.error codes outcome) ∧
          (codes = [emptyDocstring.code] ↔ isIgnored settings m r.node = false ∧
            ∃ doc, m.doc? r.node = some doc ∧ Text.isWhite doc.value = true)) ∧
      (report.error = none → ∀ n kind, m.kind? n = some kind →
        kind.tag ∈ [NodeTag.root, .classDef, .functionDef] →
          ∃ r ∈ (linter.logCheck file m lib).calls,
            r.node = n ∧ r.checker.name = "docstring") := by
  refine ⟨unfiltered checkers,
    build_of_unambiguous (unambiguous_entriesFor h.builtin h.names) .allEnabled, ?_⟩
  intro m report
  have hagenda : (unfiltered checkers).agenda m = (unfiltered checkers).schedule m :=
    agenda_ofTree (fun c hc => (h.builtin c hc).hooks_nodup) name path file.content tree
  have hnodup : ((unfiltered checkers).agenda m).Nodup :=
    hagenda ▸ nodup_schedule h.names.of_map m
  refine ⟨fun r hr hname => ?_, fun herror n kind hkind htag => ?_⟩
  · have hcodes : docstringCodes report r.node =
        (visit settings m r.before.library r.node).emissions.map (·.message) :=
      h.docstringCodes_check hnodup hdirectives hr hname
    intro codes
    rw [show codes = _ from hcodes]
    have hassembled : Assembled settings (unfiltered checkers).checkers := h
    have hvisit := (hassembled.visit_eq hr hname).2
    have hending : ∀ e, (visit settings m r.before.library r.node).error = some e →
        report.error = some e := fun e he => error_check_of_mem_calls hr (hvisit ▸ he)
    obtain ⟨outcome, hfalls⟩ := exists_falls_visit settings m r.before.library r.node hending
    -- The codes alone tell the outcomes apart.
    exact ⟨⟨outcome, hfalls, fun other hother => hother.eq_ofCodes.trans hfalls.eq_ofCodes.symm⟩,
      messages_visit_eq_empty_iff⟩
  · exact h.exists_call (Module.preorder_ofTree name path file.content tree) herror hkind htag

/-- A module without docstring. A class in it has a blank one, and the method of the class one
that shares its line with the quotes. -/
def mixedTree : Tree :=
  let literal (place : Place) (text : String) : Tree :=
    .node .expressionStatement .plain place [] [.node .string .plain place text.toList []]
  .node .file .plain ⟨1, 0⟩ []
    [.node .classDefinition .plain ⟨1, 0⟩ []
      [.node .identifier .name ⟨1, 6⟩ "A".toList [],
        .node .block .body ⟨2, 4⟩ []
          [literal ⟨2, 4⟩ "\"\"\"  \"\"\"",
            .node .functionDefinition .plain ⟨3, 4⟩ []
              [.node .identifier .name ⟨3, 8⟩ "f".toList [],
                .node .block .body ⟨4, 8⟩ [] [literal ⟨4, 8⟩ "\"\"\"F.\"\"\""]]]]]

def mixedFile : SourceFile where
  path := .ofString "m.py"
  content :=
    "class A:\n    \"\"\"  \"\"\"\n    def f(self):\n        \"\"\"F.\"\"\"\n".toList
  moduleName := "m"
  shownAs := .ofString "m.py"

theorem check_classifies_mixed :
    let checkers := [checker .default, Python3.checker]
    let m := Module.ofTree "m" (.ofString "m.py") mixedFile.content mixedTree
    Assembled .default checkers ∧
      (∀ line name, ¬ Text.Disables mixedFile.content line name) ∧
      ∃ linter, build checkers .allEnabled = .ok linter ∧
        (linter.check mixedFile m default).error = none ∧
        docstringCodes (linter.check mixedFile m default) 1 = ["W9209"] := by
  intro checkers m
  have hassembled : Assembled .default checkers := by
    refine ⟨?_, by decide, by simp [checkers]⟩
    simp only [checkers, List.forall_mem_cons, List.not_mem_nil, false_implies, implies_true,
      and_true]
    exact ⟨.docstring _, .python3⟩
  have hplain : ∀ line ∈ (scan mixedFile.content).physical, line.comment = none := by
    decide +kernel
  have hdirectives : ∀ line name, ¬ Text.Disables mixedFile.content line name := by
    rintro line name ⟨physical, hphysical, -, comment, hcomment, -⟩
    rw [hplain physical hphysical] at hcomment
    cases hcomment
  obtain ⟨linter, hbuild, hclassified, hvisited⟩ := check_classifies .default checkers hassembled
    mixedFile "m" (.ofString "m.py") mixedTree default hdirectives
  have hlinter : linter = unfiltered checkers := by
    rw [build_of_unambiguous (unambiguous_entriesFor hassembled.builtin hassembled.names)] at hbuild
    exact (Except.ok.inj hbuild).symm
  have herror : (linter.check mixedFile m default).error = none := by
    rw [hlinter]
    decide +kernel
  obtain ⟨r, hr, hnode, hname⟩ := hvisited herror 1 _ rfl (by decide)
  have hblank : docstringCodes (linter.check mixedFile m default) r.node = ["W9209"] := by
    refine (hclassified r hr hname).2.mpr ?_
    rw [hnode]
    exact ⟨by decide +kernel, _, rfl, by decide +kernel⟩
  exact ⟨hassembled, hdirectives, linter, hbuild, herror, hnode ▸ hblank⟩

end Linter

end CodingStandard
