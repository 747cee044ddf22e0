import CodingStandard.Preset
import CodingStandard.Linter
import CodingStandard.Proofs.Messages
import Mathlib.Data.List.DropRight

namespace CodingStandard

/-!
# What the checkers touch

Every checker of the library keeps to its own messages: it emits no others, and it asks about no
others whether they were emitted before. All of them but the checker of docstrings do without
other modules, and never fail.
-/

namespace Checker

/-- A checker that neither emits nor asks about the messages of others. -/
structure Discreet (c : Checker) : Prop where
  emits_own : ∀ site lib, ∀ e ∈ (c.enter site lib).emissions,
    e.message ∈ c.messages.map MessageDef.code
  asks_own : ∀ (site : Site) (attempted : List String) (lib : Library),
    (∀ msg ∈ c.messages, msg.code ∈ attempted ↔ msg.code ∈ site.attempted) →
      c.enter { site with attempted } lib = c.enter site lib

/-- A checker that does without a library and never fails. -/
def Offline (c : Checker) : Prop :=
  ∃ found : Site → List Emission, ∀ site lib, c.enter site lib = .emitting lib (found site)

theorem discreet_of_forgetful {c : Checker}
    (hemits : ∀ site lib, ∀ e ∈ (c.enter site lib).emissions,
      e.message ∈ c.messages.map MessageDef.code)
    (hforgets : ∀ (site : Site) attempted lib,
      c.enter { site with attempted } lib = c.enter site lib) : c.Discreet :=
  ⟨hemits, fun site attempted lib _ => hforgets site attempted lib⟩

end Checker

@[simp] theorem Emission.message_about (m : Module) (node : Nat) (code : String) (line : Nat)
    (args : List String) : (Emission.about m node code line args).message = code := rfl

@[simp] theorem Emission.message_atPlace (code : String) (line column : Nat)
    (args : List String) : (Emission.atPlace code line column args).message = code := rfl

/-! ## The checkers one by one -/

namespace Header

theorem offline_checker (notice : List Text) : (checker notice).Offline := ⟨_, fun _ _ => rfl⟩

theorem discreet_checker (notice : List Text) : (checker notice).Discreet := by
  refine Checker.discreet_of_forgetful ?_ fun _ _ _ => rfl
  intro site lib e he
  obtain ⟨code, hcode, rfl⟩ := List.mem_map.mp he
  rw [findings, List.mem_append] at hcode
  rcases hcode with hcode | hcode <;> split at hcode <;> simp_all [checker]

end Header

namespace Comments

theorem of_mem_ofComment {line : Nat} {comment : Comment} {f : Finding}
    (h : f ∈ ofComment line comment) :
    ∃ code ∈ [oneWhitespace.code, capitalized.code], f = ⟨code, line, comment.column + 1⟩ := by
  unfold ofComment at h
  split at h
  · simp at h
  · rcases List.mem_append.mp h with h | h <;> split at h
    · simp at h
    · exact ⟨oneWhitespace.code, by simp, List.mem_singleton.mp h⟩
    · exact ⟨capitalized.code, by simp, List.mem_singleton.mp h⟩
    · simp at h

theorem of_mem_findingsFrom {first : Bool} {lines : List PhysicalLine} {f : Finding}
    (h : f ∈ findingsFrom first lines) :
    ∃ line ∈ lines, ∃ comment, line.comment = some comment ∧
      f ∈ ofComment line.number comment := by
  induction lines generalizing first with
  | nil => simp [findingsFrom] at h
  | cons line rest ih =>
      have hrest : ∀ {first}, f ∈ findingsFrom first rest →
          ∃ other ∈ line :: rest, ∃ comment, other.comment = some comment ∧
            f ∈ ofComment other.number comment := by
        intro first h
        obtain ⟨other, hother, hf⟩ := ih h
        exact ⟨other, List.mem_cons_of_mem _ hother, hf⟩
      rw [findingsFrom] at h
      split at h
      · exact hrest h
      · split at h
        · exact hrest h
        · next comment hcomment =>
            rcases List.mem_append.mp h with h | h
            · split at h
              · exact ⟨line, List.mem_cons_self, comment, hcomment, h⟩
              · simp at h
            · exact hrest h

theorem offline_checker : checker.Offline := ⟨_, fun _ _ => rfl⟩

theorem discreet_checker : checker.Discreet := by
  refine Checker.discreet_of_forgetful ?_ fun _ _ _ => rfl
  intro site lib e he
  obtain ⟨f, hf, rfl⟩ := List.mem_map.mp he
  obtain ⟨_, _, _, _, hf⟩ := of_mem_findingsFrom hf
  obtain ⟨code, hcode, rfl⟩ := of_mem_ofComment hf
  exact hcode

end Comments

namespace Formatting

theorem of_mem_findings {site : Site} {e : Emission} (h : e ∈ findings site) :
    e = .about site.home site.node notTuple.code (site.home.lineOf site.node) [] := by
  unfold findings at h
  split at h
  · split at h
    · exact List.mem_singleton.mp h
    · simp at h
  · simp at h

theorem offline_checker : checker.Offline := ⟨_, fun _ _ => rfl⟩

theorem discreet_checker : checker.Discreet := by
  refine Checker.discreet_of_forgetful ?_ fun _ _ _ => rfl
  intro site lib e he
  rw [of_mem_findings he]
  simp [checker]

end Formatting

namespace TestClass

theorem of_mem_findings {site : Site} {e : Emission} (h : e ∈ findings site) :
    ∃ child, e = .about site.home child notEndingWithTests.code (site.home.lineOf child) [] := by
  unfold findings at h
  split at h
  · obtain ⟨child, -, rfl⟩ := List.mem_map.mp h
    exact ⟨child, rfl⟩
  · simp at h

theorem offline_checker : checker.Offline := ⟨_, fun _ _ => rfl⟩

theorem discreet_checker : checker.Discreet := by
  refine Checker.discreet_of_forgetful ?_ fun _ _ _ => rfl
  intro site lib e he
  obtain ⟨child, rfl⟩ := of_mem_findings he
  simp [checker]

end TestClass

namespace Names

theorem of_mem_ofMethod {site : Site} {name : String} {e : Emission}
    (h : e ∈ ofMethod site name) :
    ∃ code ∈ [invalidMethodName.code, invalidTestMethodName.code],
      e = .about site.home site.node code (site.home.lineOf site.node) [] := by
  unfold ofMethod at h
  dsimp only at h
  split at h <;> split at h
  · simp at h
  · exact ⟨invalidTestMethodName.code, by simp, List.mem_singleton.mp h⟩
  · simp at h
  · exact ⟨invalidMethodName.code, by simp, List.mem_singleton.mp h⟩

theorem of_mem_findings {site : Site} {e : Emission} (h : e ∈ findings site) :
    (site.home.function? site.node = none ∧
        e = .about site.home site.node testModuleName.code 1 []) ∨
      ∃ code ∈ [invalidMethodName.code, invalidTestMethodName.code],
        e = .about site.home site.node code (site.home.lineOf site.node) [] := by
  unfold findings at h
  split at h
  · next hnone =>
      unfold ofModule at h
      split at h
      · exact .inl ⟨hnone, List.mem_singleton.mp h⟩
      · simp at h
  · split at h
    · exact .inr (of_mem_ofMethod h)
    · simp at h

theorem offline_checker : checker.Offline := ⟨_, fun _ _ => rfl⟩

theorem discreet_checker : checker.Discreet := by
  refine Checker.discreet_of_forgetful ?_ fun _ _ _ => rfl
  intro site lib e he
  rcases of_mem_findings he with ⟨-, rfl⟩ | ⟨code, hcode, rfl⟩
  · simp [checker]
  · exact List.mem_cons_of_mem _ hcode

end Names

namespace Python3

theorem codes_congr {site other : Site} (hhome : site.home = other.home)
    (hnode : site.node = other.node)
    (hprint : printStatement.code ∈ site.attempted ↔ printStatement.code ∈ other.attempted) :
    codes site = codes other := by
  have hcontains : site.attempted.contains printStatement.code =
      other.attempted.contains printStatement.code := by
    rw [Bool.eq_iff_iff, List.contains_iff_mem, List.contains_iff_mem]
    exact hprint
  unfold codes
  rw [hhome, hnode, hcontains]

theorem code_mem_of_mem_codes {site : Site} {code : String} (h : code ∈ codes site) :
    code ∈ checker.messages.map MessageDef.code := by
  unfold codes at h
  split at h
  · split at h <;> simp_all [checker]
  · rcases List.mem_append.mp h with h | h <;> split at h <;> simp_all [checker]
  · simp_all [checker]
  · simp at h

theorem offline_checker : checker.Offline := ⟨_, fun _ _ => rfl⟩

theorem discreet_checker : checker.Discreet where
  emits_own := by
    intro site lib e he
    obtain ⟨code, hcode, rfl⟩ := List.mem_map.mp he
    exact code_mem_of_mem_codes hcode
  asks_own := by
    -- Whether a `print` statement was reported is the one thing that the checker asks about.
    intro site attempted lib hown
    have hcodes : codes { site with attempted } = codes site :=
      codes_congr rfl rfl (hown printStatement (by simp [checker]))
    simp only [checker, findings, hcodes]

end Python3

namespace Spacing

/-- The messages about blank lines that stand behind the indentation of a line. -/
def indentCodes : List String := [
  expectedTwo.code, tooMany.code, tooManyAfterDocstring.code, afterDecorator.code]

/-- The messages about the ends of lines and files. -/
def endCodes : List String := [
  trailingWhitespace.code, blankLineWhitespace.code, blankAtEnd.code, noNewlineAtEnd.code]

theorem of_between? {limit : Nat} {previous current : LogicalLine} {f : Finding}
    (h : between? limit previous current = some f) :
    (∃ code ∈ indentCodes, ∃ arg, f = ⟨code, current.start, current.indent + 1, arg⟩) ∨
      ∃ arg, f = ⟨expectedThree.code, current.start, 1, arg⟩ := by
  simp only [between?] at h
  repeat' split at h
  case isFalse.isTrue.isFalse.isTrue htop _ =>
    -- A definition at the top level has no indentation.
    cases h
    refine .inr ⟨some (toString current.blankBefore), ?_⟩
    rw [Finding.counting, Nat.eq_zero_of_not_pos htop]
  all_goals cases h
  all_goals exact .inl ⟨_, by simp [indentCodes], _, rfl⟩

theorem of_mem_blankLineFindings {limit : Nat} {lines : List LogicalLine} {f : Finding}
    (h : f ∈ blankLineFindings limit lines) :
    ∃ previous, ∃ current ∈ lines, between? limit previous current = some f := by
  induction lines with
  | nil => simp [blankLineFindings] at h
  | cons previous lines ih =>
      cases lines with
      | nil => simp [blankLineFindings] at h
      | cons current rest =>
          rcases List.mem_append.mp h with h | h
          · exact ⟨previous, current, by simp, Option.mem_toList.mp h⟩
          · obtain ⟨before, line, hline, hf⟩ := ih h
            exact ⟨before, line, List.mem_cons_of_mem _ hline, hf⟩

theorem of_lineEnd? {line : PhysicalLine} {f : Finding} (h : lineEnd? line = some f) :
    ∃ code ∈ endCodes, ∃ part, part <+: line.text ∧
      f = ⟨code, line.number, Text.byteLength part + 1, none⟩ := by
  simp only [lineEnd?] at h
  repeat' split at h
  all_goals cases h
  · exact ⟨blankLineWhitespace.code, by simp [endCodes], [], List.nil_prefix, rfl⟩
  · exact ⟨trailingWhitespace.code, by simp [endCodes], _, List.rdropWhile_prefix isTrailing _, rfl⟩

theorem of_fileEnd? {scan : Scan} {f : Finding} (h : fileEnd? scan = some f) :
    ∃ last ∈ scan.physical, ∃ code ∈ endCodes, ∃ part, part <+: last.text ∧
      f = ⟨code, last.number, Text.byteLength part + 1, none⟩ := by
  obtain ⟨last, hlast, h⟩ := Option.bind_eq_some_iff.mp h
  refine ⟨last, List.mem_of_getLast? hlast, ?_⟩
  repeat' split at h
  all_goals cases h
  · exact ⟨noNewlineAtEnd.code, by simp [endCodes], last.text, List.prefix_rfl, rfl⟩
  · exact ⟨blankAtEnd.code, by simp [endCodes], [], List.nil_prefix, rfl⟩

theorem of_mem_physicalFindings {scan : Scan} {f : Finding} (h : f ∈ physicalFindings scan) :
    ∃ line ∈ scan.physical, ∃ code ∈ endCodes, ∃ part, part <+: line.text ∧
      f = ⟨code, line.number, Text.byteLength part + 1, none⟩ := by
  rcases List.mem_append.mp h with h | h
  · obtain ⟨line, hline, h⟩ := List.mem_filterMap.mp h
    exact ⟨line, hline, of_lineEnd? h⟩
  · exact of_fileEnd? (Option.mem_toList.mp h)

theorem offline_checker (limit : Nat) : (checker limit).Offline := ⟨_, fun _ _ => rfl⟩

theorem discreet_checker (limit : Nat) : (checker limit).Discreet := by
  refine Checker.discreet_of_forgetful ?_ fun _ _ _ => rfl
  intro site lib e he
  have hindent : indentCodes ⊆ (checker limit).messages.map MessageDef.code := by
    simp [indentCodes, checker]
  have hend : endCodes ⊆ (checker limit).messages.map MessageDef.code := by
    simp [endCodes, checker]
  obtain ⟨f, hf, rfl⟩ := List.mem_map.mp he
  rcases List.mem_append.mp hf with hf | hf
  · obtain ⟨_, _, _, hf⟩ := of_mem_blankLineFindings hf
    rcases of_between? hf with ⟨code, hcode, _, rfl⟩ | ⟨_, rfl⟩
    · exact hindent hcode
    · simp [checker]
  · obtain ⟨_, _, code, hcode, _, _, rfl⟩ := of_mem_physicalFindings hf
    exact hend hcode

end Spacing

namespace DocstringRule

/-- The messages that stand on a line of a docstring. -/
def lineCodes : List String := [
  notIsolated.code, missingParam.code, missingType.code, missingReturn.code,
  missingReturnType.code, inconsistentIndentation.code, missingBlankLine.code]

/-- A message about a node that stands on a line of its docstring. -/
def OnDocstring (m : Module) (node : Nat) (e : Emission) : Prop :=
  ∃ code ∈ lineCodes, ∃ line args, e = .about m node code line args

variable {settings : Settings} {m : Module} {node : Nat} {doc : Docstring} {e : Emission}

theorem onDocstring_about {code : String} (hcode : code ∈ lineCodes) (line : Nat)
    (args : List String) : OnDocstring m node (.about m node code line args) :=
  ⟨code, hcode, line, args, rfl⟩

theorem onDocstring_of_mem_ofLayout (h : e ∈ ofLayout m node doc) : OnDocstring m node e := by
  unfold ofLayout at h
  split at h
  · obtain ⟨line, -, rfl⟩ := List.mem_map.mp h
    exact onDocstring_about (by simp [lineCodes]) _ _
  · rw [List.mem_singleton.mp h]
    exact onDocstring_about (by simp [lineCodes]) _ _

theorem onDocstring_of_mem_ofParam {p : Param} (h : e ∈ ofParam settings m node doc p) :
    OnDocstring m node e := by
  rcases List.mem_append.mp h with h | h <;> split at h
  · simp at h
  · rw [List.mem_singleton.mp h]
    exact onDocstring_about (by simp [lineCodes]) _ _
  · simp at h
  · rw [List.mem_singleton.mp h]
    exact onDocstring_about (by simp [lineCodes]) _ _

theorem onDocstring_of_mem_ofReturn {f : FunctionDef} (h : e ∈ ofReturn settings m node f doc) :
    OnDocstring m node e := by
  unfold ofReturn at h
  split at h
  · rcases List.mem_append.mp h with h | h <;> split at h
    · simp at h
    · rw [List.mem_singleton.mp h]
      exact onDocstring_about (by simp [lineCodes]) _ _
    · simp at h
    · rw [List.mem_singleton.mp h]
      exact onDocstring_about (by simp [lineCodes]) _ _
  · simp at h

theorem onDocstring_of_mem_ofFields (h : e ∈ ofFields settings m node doc) :
    OnDocstring m node e := by
  unfold ofFields at h
  split at h
  · simp at h
  · split at h
    · simp at h
    · rcases List.mem_append.mp h with h | h
      · obtain ⟨p, _, hp⟩ := List.mem_flatMap.mp h
        exact onDocstring_of_mem_ofParam hp
      · exact onDocstring_of_mem_ofReturn h

theorem onDocstring_of_mem_ofBlankLine (h : e ∈ ofBlankLine m node doc) :
    OnDocstring m node e := by
  unfold ofBlankLine at h
  split at h
  · rw [List.mem_singleton.mp h]
    exact onDocstring_about (by simp [lineCodes]) _ _
  · simp at h

theorem of_mem_ofDocstring (h : e ∈ ofDocstring settings m node doc) :
    OnDocstring m node e ∨ e = .about m node emptyDocstring.code (m.lineOf node) [] := by
  unfold ofDocstring at h
  split at h
  · exact .inr (List.mem_singleton.mp h)
  · rcases List.mem_append.mp h with h | h
    · rcases List.mem_append.mp h with h | h
      · exact .inl (onDocstring_of_mem_ofLayout h)
      · exact .inl (onDocstring_of_mem_ofFields h)
    · exact .inl (onDocstring_of_mem_ofBlankLine h)

theorem of_mem_visitMissing {lib : Library} (h : e ∈ (visitMissing m lib node).emissions) :
    e = .about m node missingDocstring.code (m.lineOf node) [] := by
  unfold visitMissing at h
  split at h
  · simp [Visit.emitting] at h
  · split at h
    · simp [Visit.emitting] at h
    · exact List.mem_singleton.mp h
    · simp at h

theorem of_mem_visit {lib : Library} (h : e ∈ (visit settings m lib node).emissions) :
    OnDocstring m node e ∨ ∃ code ∈ [missingDocstring.code, emptyDocstring.code],
      e = .about m node code (m.lineOf node) [] := by
  unfold visit at h
  split at h
  · simp [Visit.emitting] at h
  · split at h
    · exact (of_mem_ofDocstring h).imp_right fun h => ⟨emptyDocstring.code, by simp, h⟩
    · exact .inr ⟨missingDocstring.code, by simp, of_mem_visitMissing h⟩

theorem discreet_checker (settings : Settings) : (checker settings).Discreet := by
  refine Checker.discreet_of_forgetful ?_ fun _ _ _ => rfl
  intro site lib e he
  have hlines : lineCodes ⊆ (checker settings).messages.map MessageDef.code := by
    simp [lineCodes, checker]
  rcases of_mem_visit he with ⟨code, hcode, _, _, rfl⟩ | ⟨code, hcode, rfl⟩
  · exact hlines hcode
  · exact List.mem_append_right lineCodes hcode

end DocstringRule

/-! ## All checkers -/

/-- The checkers of the library, each with any settings. -/
inductive Builtin : Checker → Prop where
  | header (notice : List Text) : Builtin (Header.checker notice)
  | spacing (limit : Nat) : Builtin (Spacing.checker limit)
  | docstring (settings : DocstringRule.Settings) : Builtin (DocstringRule.checker settings)
  | names : Builtin Names.checker
  | comments : Builtin Comments.checker
  | formatting : Builtin Formatting.checker
  | python3 : Builtin Python3.checker
  | testClass : Builtin TestClass.checker

namespace Builtin

theorem discreet {c : Checker} (h : Builtin c) : c.Discreet := by
  cases h with
  | header notice => exact Header.discreet_checker notice
  | spacing limit => exact Spacing.discreet_checker limit
  | docstring settings => exact DocstringRule.discreet_checker settings
  | names => exact Names.discreet_checker
  | comments => exact Comments.discreet_checker
  | formatting => exact Formatting.discreet_checker
  | python3 => exact Python3.discreet_checker
  | testClass => exact TestClass.discreet_checker

theorem offline {c : Checker} (h : Builtin c) (hname : c.name ≠ "docstring") : c.Offline := by
  -- The checker of docstrings alone asks for other modules; its name rules it out.
  cases h with
  | header notice => exact Header.offline_checker notice
  | spacing limit => exact Spacing.offline_checker limit
  | docstring settings => exact absurd rfl hname
  | names => exact Names.offline_checker
  | comments => exact Comments.offline_checker
  | formatting => exact Formatting.offline_checker
  | python3 => exact Python3.offline_checker
  | testClass => exact TestClass.offline_checker

theorem eq_docstring {c : Checker} (h : Builtin c) (hname : c.name = "docstring") :
    ∃ settings, c = DocstringRule.checker settings := by
  cases h with
  | docstring settings => exact ⟨settings, rfl⟩
  | header | spacing | names | comments | formatting | python3 | testClass =>
      simp [Header.checker, Spacing.checker, Names.checker, Comments.checker, Formatting.checker,
        Python3.checker, TestClass.checker] at hname

/-- One checker of each sort. -/
def samples : List Checker :=
  [Header.checker [], Spacing.checker 0, DocstringRule.checker .default, Names.checker,
    Comments.checker, Formatting.checker, Python3.checker, TestClass.checker]

theorem exists_sample {c : Checker} (h : Builtin c) :
    ∃ d ∈ samples, d.name = c.name ∧ d.messages = c.messages := by
  cases h with
  | header notice => exact ⟨Header.checker [], by simp [samples], rfl, rfl⟩
  | spacing limit => exact ⟨Spacing.checker 0, by simp [samples], rfl, rfl⟩
  | docstring settings =>
      exact ⟨DocstringRule.checker .default, by simp [samples], rfl, rfl⟩
  | names => exact ⟨Names.checker, by simp [samples], rfl, rfl⟩
  | comments => exact ⟨Comments.checker, by simp [samples], rfl, rfl⟩
  | formatting => exact ⟨Formatting.checker, by simp [samples], rfl, rfl⟩
  | python3 => exact ⟨Python3.checker, by simp [samples], rfl, rfl⟩
  | testClass => exact ⟨TestClass.checker, by simp [samples], rfl, rfl⟩

/-- The entries of the program itself and of all checkers. -/
def registry : List CatalogEntry :=
  Catalog.initial.registered ++ samples.flatMap fun c => Catalog.entriesOf c.name c.messages

theorem unambiguous_registry : Catalog.Unambiguous ⟨registry⟩ := by
  unfold Catalog.Unambiguous
  decide +kernel

theorem mem_registry {c : Checker} (h : Builtin c) {e : CatalogEntry}
    (he : e ∈ Catalog.entriesOf c.name c.messages) : e ∈ registry := by
  obtain ⟨d, hd, hname, hmessages⟩ := h.exists_sample
  apply List.mem_append_right
  exact List.mem_flatMap.mpr ⟨d, hd, by rwa [hname, hmessages]⟩

theorem name_eq_of_code {c d : Checker} (hc : Builtin c) (hd : Builtin d)
    {msg msg' : MessageDef} (hmsg : msg ∈ c.messages) (hmsg' : msg' ∈ d.messages)
    (hcode : msg.code = msg'.code) : c.name = d.name := by
  have hentry : (⟨msg, c.name⟩ : CatalogEntry) = ⟨msg', d.name⟩ :=
    unambiguous_registry.eq_of_name (hc.mem_registry (List.mem_map.mpr ⟨msg, hmsg, rfl⟩))
      (hd.mem_registry (List.mem_map.mpr ⟨msg', hmsg', rfl⟩)) (.inl hcode) (.inl rfl)
  exact congrArg CatalogEntry.checker hentry

theorem messages_nodup {c : Checker} (h : Builtin c) : c.messages.Nodup := by
  obtain ⟨d, hd, _, hmessages⟩ := h.exists_sample
  have hall : ∀ d ∈ samples, d.messages.Nodup := by decide +kernel
  exact hmessages ▸ hall d hd

theorem name_ne_host {c : Checker} (h : Builtin c) : c.name ≠ Catalog.host := by
  obtain ⟨d, hd, hname, _⟩ := h.exists_sample
  have hall : ∀ d ∈ samples, d.name ≠ Catalog.host := by decide +kernel
  exact hname ▸ hall d hd

end Builtin

end CodingStandard
