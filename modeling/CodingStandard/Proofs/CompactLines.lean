import CodingStandard.Proofs.Containment
import CodingStandard.Report.Format

namespace CodingStandard

/-!
# The lines of a compact report

The compact form of a report is meant to hold one line for each violation. What a message says is
its template with the arguments filled in, and of all arguments only two kinds may hold a newline:
the names of parameters, which are source text where a parameter is a pattern, and the texts of the
errors that end a check. A report has a line for each violation exactly if none of these does.
-/

/-- A text without newline. -/
def OneLine (s : String) : Prop := '\n' ∉ s.toList

instance (s : String) : Decidable (OneLine s) := inferInstanceAs (Decidable ('\n' ∉ s.toList))

section Texts

variable {s t : String}

/-- A newline is encoded as the byte ten. -/
theorem oneLine_of_bytes (h : 10 ∉ s.toByteArray.data.toList) : OneLine s := by
  intro hnewline
  rw [← String.ofList_toList (s := s), String.toByteArray_ofList, List.utf8Encode,
    List.data_toByteArray] at h
  exact h (List.mem_flatMap.mpr ⟨'\n', hnewline, by decide⟩)

@[simp] theorem oneLine_append : OneLine (s ++ t) ↔ OneLine s ∧ OneLine t := by
  simp [OneLine, not_or]

theorem newline_notMem_toDigits (n : Nat) : '\n' ∉ Nat.toDigits 10 n := by
  have hdigit : ∀ d < 10, '\n' ≠ Nat.digitChar d := by decide
  induction n using Nat.strongRecOn with
  | ind n ih =>
      rw [Nat.toDigits_eq_if (by decide)]
      split
      · next hn => simp [hdigit n hn]
      · rw [List.mem_append, List.mem_singleton, not_or]
        exact ⟨ih (n / 10) (by omega), hdigit (n % 10) (by omega)⟩

@[simp] theorem oneLine_repr (n : Nat) : OneLine n.repr := by
  simp [OneLine, Nat.repr, newline_notMem_toDigits n]

theorem oneLine_iff_count : OneLine s ↔ s.toList.count '\n' = 0 := List.count_eq_zero.symm

theorem toList_unlines (lines : List String) :
    (unlines lines).toList = lines.flatMap fun line => line.toList ++ ['\n'] := by
  have hfold : ∀ start : String,
      (lines.foldl (fun text line => text ++ line ++ "\n") start).toList =
        start.toList ++ lines.flatMap fun line => line.toList ++ ['\n'] := by
    induction lines with
    | nil => simp
    | cons line lines ih =>
        intro start
        rw [List.foldl_cons, ih]
        simp
  simpa [unlines] using hfold ""

theorem count_unlines_cons (line : String) (lines : List String) :
    (unlines (line :: lines)).toList.count '\n' =
      line.toList.count '\n' + 1 + (unlines lines).toList.count '\n' := by
  rw [toList_unlines, toList_unlines, List.flatMap_cons, List.count_append, List.count_append,
    List.count_singleton_self]

theorem length_le_count_unlines (lines : List String) :
    lines.length ≤ (unlines lines).toList.count '\n' := by
  induction lines with
  | nil => exact Nat.zero_le _
  | cons line lines ih =>
      rw [count_unlines_cons, List.length_cons]
      omega

/-- There are as many newlines as lines exactly if no line holds one of its own. -/
theorem count_unlines_eq_length_iff (lines : List String) :
    (unlines lines).toList.count '\n' = lines.length ↔ ∀ line ∈ lines, OneLine line := by
  induction lines with
  | nil => simp [toList_unlines]
  | cons line lines ih =>
      have hrest := length_le_count_unlines lines
      rw [count_unlines_cons, List.length_cons, List.forall_mem_cons, ← ih, oneLine_iff_count]
      omega

end Texts

namespace MessageDef

/-- The number of places in a template that take an argument. -/
def placeholders : Text → Nat
  | '\x7b' :: '\x7d' :: t => placeholders t + 1
  | _ :: t => placeholders t
  | [] => 0

/-- A newline in a message comes from the template or from an argument that it takes. -/
theorem newline_mem_fill_iff {template : Text} {args : List Text} :
    '\n' ∈ fill template args ↔
      '\n' ∈ template ∨ ∃ arg ∈ args.take (placeholders template), '\n' ∈ arg := by
  fun_induction fill template args with
  | case1 t ih => simp_all [placeholders]
  | case2 t arg args ih => simp_all [placeholders, or_left_comm]
  | case3 c t args hnone hsome ih =>
      -- Neither pattern with a pair of braces applies, with or without an argument left.
      have hplain : placeholders (c :: t) = placeholders t := by
        refine placeholders.eq_2 c t fun rest hc ht => ?_
        cases args with
        | nil => exact hnone rest rfl hc ht
        | cons arg args => exact hsome rest arg args rfl hc ht
      rw [hplain, List.mem_cons, List.mem_cons, ih, or_assoc]
  | case4 => simp [placeholders]

end MessageDef

/-! ## What checkers fill in -/

namespace Emission

/-- A message that asks for the markup of a parameter of a function. -/
def NamesParameter (m : Module) (e : Emission) : Prop :=
  e.message ∈ [DocstringRule.missingParam.code, DocstringRule.missingType.code] ∧
    ∃ node f p, m.function? node = some f ∧ p ∈ f.params ∧ e.args = [p.name]

/-- A message whose arguments hold no newline, unless it names a parameter. -/
def Plain (m : Module) (e : Emission) : Prop :=
  (∀ arg ∈ e.args, OneLine arg) ∨ e.NamesParameter m

theorem plain_of_args {m : Module} {e : Emission} (h : e.args = []) : e.Plain m :=
  .inl (h ▸ nofun)

end Emission

theorem Spacing.oneLine_of_between? {limit : Nat} {previous current : LogicalLine} {f : Finding}
    (h : between? limit previous current = some f) : ∀ arg ∈ f.arg, OneLine arg := by
  simp only [between?] at h
  repeat' split at h
  all_goals cases h
  all_goals simp [Finding.counting]

namespace DocstringRule

variable {settings : Settings} {m : Module} {node : Nat} {doc : Docstring} {e : Emission}

theorem mem_params_of_mem_documentedParams {f : FunctionDef} {p : Param}
    (h : p ∈ documentedParams m node f) : p ∈ f.params := by
  unfold documentedParams at h
  have htail : ∀ p ∈ (if m.isMethod node && !f.hasDecorator "staticmethod" then f.params.tail
      else f.params), p ∈ f.params := by
    intro p hp
    split at hp
    · exact List.mem_of_mem_tail hp
    · exact hp
  dsimp only at h
  split at h
  · exact htail p (List.mem_of_mem_filter h)
  · exact htail p h

theorem args_eq_nil_of_mem_ofLayout (h : e ∈ ofLayout m node doc) : e.args = [] := by
  unfold ofLayout at h
  split at h
  · obtain ⟨line, -, rfl⟩ := List.mem_map.mp h
    rfl
  · rw [List.mem_singleton.mp h]
    rfl

theorem args_eq_nil_of_mem_ofReturn {f : FunctionDef} (h : e ∈ ofReturn settings m node f doc) :
    e.args = [] := by
  unfold ofReturn at h
  split at h
  · rcases List.mem_append.mp h with h | h <;> split at h <;> simp_all [Emission.about]
  · simp at h

theorem args_eq_nil_of_mem_ofBlankLine (h : e ∈ ofBlankLine m node doc) : e.args = [] := by
  unfold ofBlankLine at h
  split at h <;> simp_all [Emission.about]

theorem of_mem_ofParam {p : Param} (h : e ∈ ofParam settings m node doc p) :
    e.message ∈ [missingParam.code, missingType.code] ∧ e.args = [p.name] := by
  rcases List.mem_append.mp h with h | h <;> split at h <;> simp_all [Emission.about]

theorem plain_of_mem_ofFields (h : e ∈ ofFields settings m node doc) : e.Plain m := by
  unfold ofFields at h
  split at h
  · simp at h
  next f hf =>
    split at h
    · simp at h
    · rcases List.mem_append.mp h with h | h
      · obtain ⟨p, hp, he⟩ := List.mem_flatMap.mp h
        obtain ⟨hmessage, hargs⟩ := of_mem_ofParam he
        exact .inr ⟨hmessage, node, f, p, hf, mem_params_of_mem_documentedParams hp, hargs⟩
      · exact Emission.plain_of_args (args_eq_nil_of_mem_ofReturn h)

theorem plain_of_mem_ofDocstring (h : e ∈ ofDocstring settings m node doc) : e.Plain m := by
  unfold ofDocstring at h
  split at h
  · rw [List.mem_singleton.mp h]
    exact Emission.plain_of_args rfl
  · rcases List.mem_append.mp h with h | h
    · rcases List.mem_append.mp h with h | h
      · exact Emission.plain_of_args (args_eq_nil_of_mem_ofLayout h)
      · exact plain_of_mem_ofFields h
    · exact Emission.plain_of_args (args_eq_nil_of_mem_ofBlankLine h)

theorem plain_of_mem_visit {lib : Library} (h : e ∈ (visit settings m lib node).emissions) :
    e.Plain m := by
  unfold visit at h
  split at h
  · simp [Visit.emitting] at h
  · split at h
    · exact plain_of_mem_ofDocstring h
    · rw [of_mem_visitMissing h]
      exact Emission.plain_of_args rfl

end DocstringRule

/-- No argument that a checker fills in holds a newline, but for the names of parameters. -/
theorem Builtin.plain {c : Checker} (hc : Builtin c) {site : Site} {lib : Library} {e : Emission}
    (h : e ∈ (c.enter site lib).emissions) : e.Plain site.home := by
  cases hc with
  | header notice =>
      obtain ⟨code, -, rfl⟩ := List.mem_map.mp h
      exact Emission.plain_of_args rfl
  | spacing limit =>
      obtain ⟨f, hf, rfl⟩ := List.mem_map.mp h
      rcases List.mem_append.mp hf with hf | hf
      · obtain ⟨previous, current, -, hbetween⟩ := Spacing.of_mem_blankLineFindings hf
        exact .inl fun arg harg =>
          Spacing.oneLine_of_between? hbetween arg (Option.mem_toList.mp harg)
      · obtain ⟨_, _, _, _, _, _, rfl⟩ := Spacing.of_mem_physicalFindings hf
        exact .inl nofun
  | docstring settings => exact DocstringRule.plain_of_mem_visit h
  | names =>
      rcases Names.of_mem_findings h with ⟨-, rfl⟩ | ⟨_, -, rfl⟩
      · exact Emission.plain_of_args rfl
      · exact Emission.plain_of_args rfl
  | comments =>
      obtain ⟨f, -, rfl⟩ := List.mem_map.mp h
      exact .inl nofun
  | formatting =>
      rw [Formatting.of_mem_findings h]
      exact Emission.plain_of_args rfl
  | python3 =>
      obtain ⟨code, -, rfl⟩ := List.mem_map.mp h
      exact Emission.plain_of_args rfl
  | testClass =>
      obtain ⟨child, rfl⟩ := TestClass.of_mem_findings h
      exact Emission.plain_of_args rfl

/-! ## Messages of the program -/

/-- Every entry is one of the program or of its checkers. -/
def Catalog.Known (catalog : Catalog) : Prop :=
  ∀ entry ∈ catalog.registered, entry ∈ Builtin.registry

namespace Catalog

variable {catalog catalog' : Catalog} {entry : CatalogEntry} {name : String}

theorem mem_registered_register {checker : String} {msgs : List MessageDef}
    (h : entry ∈ (catalog.register checker msgs).1.registered) :
    entry ∈ catalog.registered ∨ entry ∈ entriesOf checker msgs := by
  induction msgs generalizing catalog with
  | nil => exact .inl h
  | cons msg msgs ih =>
      rw [register] at h
      split at h
      · exact .inl h
      · rcases ih h with h | h
        · rcases List.mem_append.mp h with h | h
          · exact .inl h
          · exact .inr (List.mem_cons.mpr (.inl (List.mem_singleton.mp h)))
        · exact .inr (List.mem_cons_of_mem _ h)

theorem known_initial : Known initial := fun _ h => List.mem_append_left _ h

theorem Known.registerAll {checkers : List Checker} (h : catalog.Known)
    (hbuiltin : ∀ c ∈ checkers, Builtin c)
    (hall : Linter.registerAll catalog checkers = .ok catalog') : catalog'.Known := by
  induction checkers generalizing catalog with
  | nil =>
      cases hall
      exact h
  | cons c checkers ih =>
      rw [List.forall_mem_cons] at hbuiltin
      rw [Linter.registerAll] at hall
      split at hall
      next next hregister =>
        refine ih (fun entry hentry => ?_) hbuiltin.2 hall
        have hmem : entry ∈ (catalog.register c.name c.messages).1.registered := by
          rwa [hregister]
        rcases mem_registered_register hmem with hmem | hmem
        · exact h entry hmem
        · exact hbuiltin.1.mem_registry hmem
      next => cases hall

/-- A message of the program that is looked up by its code is the message with that code. -/
theorem Known.message_eq (h : catalog.Known) (hget : catalog.get? name = some entry)
    {known : CatalogEntry} (hknown : known ∈ Builtin.registry)
    (hname : known.message.code = name) : entry = known := by
  obtain ⟨hentry, hnamed⟩ := of_get?_eq_some hget
  exact Builtin.unambiguous_registry.eq_of_name (h entry hentry) hknown hnamed (.inl hname)

end Catalog

/-- The messages of the program are texts on one line. Their bytes are looked at, which is faster
than to decode them. -/
theorem oneLine_of_mem_registry {entry : CatalogEntry} (h : entry ∈ Builtin.registry) :
    OneLine entry.message.code ∧ OneLine entry.message.summary := by
  have hcodes : ∀ entry ∈ Builtin.registry, OneLine entry.message.code := by decide +kernel
  have hsummaries : ∀ entry ∈ Builtin.registry,
      10 ∉ entry.message.summary.toByteArray.data.toList := by decide +kernel
  exact ⟨hcodes entry h, oneLine_of_bytes (hsummaries entry h)⟩

/-! ## Violations -/

theorem MessageDef.oneLine_render_iff {msg : MessageDef} (hsummary : OneLine msg.summary)
    {args : List String} : OneLine (msg.render args) ↔
      ∀ arg ∈ args.take (placeholders msg.summary.toList), OneLine arg := by
  rw [OneLine, render, String.toList_ofList, newline_mem_fill_iff, or_iff_right hsummary,
    ← List.map_take]
  simp only [OneLine, List.mem_map, exists_exists_and_eq_and, not_exists, not_and]

namespace Violation

variable {v : Violation}

theorem oneLine_render_iff (hfile : OneLine v.location.file.toString) (hcode : OneLine v.code) :
    OneLine v.render ↔ OneLine v.message := by
  have hseverity : OneLine v.severity.name := by cases v.severity <;> decide
  have hmarks : OneLine ":" ∧ OneLine ": " ∧ OneLine " [" ∧ OneLine "] " := by decide
  simp [render, hfile, hcode, hseverity, hmarks]

/-- If a message takes all its arguments, the violation is on one line exactly if they are. -/
theorem oneLine_render_iff_args {entry : CatalogEntry} (hentry : entry ∈ Builtin.registry)
    (hcode : v.code = entry.message.code) (hmessage : v.message = entry.message.render v.args)
    (hfile : OneLine v.location.file.toString)
    (htakes : (∀ arg ∈ v.args, OneLine arg) ∨
      v.args.length ≤ MessageDef.placeholders entry.message.summary.toList) :
    OneLine v.render ↔ ∀ arg ∈ v.args, OneLine arg := by
  obtain ⟨hknown, hsummary⟩ := oneLine_of_mem_registry hentry
  rw [oneLine_render_iff hfile (hcode ▸ hknown), hmessage,
    MessageDef.oneLine_render_iff hsummary]
  rcases htakes with hargs | hlength
  · exact ⟨fun _ => hargs, fun h arg harg => h arg (List.mem_of_mem_take harg)⟩
  · rw [List.take_of_length_le hlength]

/-- A message about a parameter whose name is source text over several lines. -/
def NamesBroken (m : Module) (v : Violation) : Prop :=
  v.code ∈ [DocstringRule.missingParam.code, DocstringRule.missingType.code] ∧
    ∃ node f p, m.function? node = some f ∧ p ∈ f.params ∧ v.args = [p.name] ∧ ¬ OneLine p.name

/-- The message about an aborted check, with an error whose text goes over several lines. -/
def QuotesBroken (error : CheckError) (v : Violation) : Prop :=
  v.code = Catalog.abortMessage.code ∧ v.args = [error.message] ∧ ¬ OneLine error.message

end Violation

namespace Linter

variable {linter : Linter} {file : SourceFile} {m : Module} {lib : Library} {v : Violation}

/-- A violation of a check is worded by a message of the program, which takes the name of a
parameter if it has an argument that may hold a newline. -/
theorem exists_wording_of_mem_check (hbuiltin : ∀ c ∈ linter.checkers, Builtin c)
    (hknown : linter.catalog.Known) (h : v ∈ (linter.check file m lib).violations) :
    ∃ entry ∈ Builtin.registry, v.code = entry.message.code ∧
      v.message = entry.message.render v.args ∧ v.location.file = file.shownAs ∧
      ((∀ arg ∈ v.args, OneLine arg) ∨
        entry.message ∈ [DocstringRule.missingParam, DocstringRule.missingType] ∧
          ∃ node f p, m.function? node = some f ∧ p ∈ f.params ∧ v.args = [p.name]) := by
  obtain ⟨c, site, lib', hdue, -, rfl, -, e, he, hreported⟩ := exists_emission_of_mem_check h
  obtain ⟨entry, hentry, hv⟩ := Option.bind_eq_some_iff.mp hreported
  rw [Option.ite_none_right_eq_some] at hv
  obtain rfl := Option.some.inj hv.2
  refine ⟨entry, hknown entry (Catalog.of_get?_eq_some hentry).1, rfl, rfl, rfl, ?_⟩
  refine (hbuiltin c (mem_checkers_of_mem_agenda hdue)).plain he |>.imp_right ?_
  rintro ⟨hmessage, node, f, p, hf, hp, hargs⟩
  refine ⟨?_, node, f, p, hf, hp, hargs⟩
  have hmessages : ∀ msg ∈ [DocstringRule.missingParam, DocstringRule.missingType],
      (⟨msg, "docstring"⟩ : CatalogEntry) ∈ Builtin.registry := by decide +kernel
  obtain ⟨msg, hmsg, hcode⟩ : ∃ msg ∈ [DocstringRule.missingParam, DocstringRule.missingType],
      msg.code = e.message := by simpa [eq_comm] using hmessage
  rwa [hknown.message_eq hentry (hmessages msg hmsg) hcode]

end Linter

/-! ## Runs -/

theorem exists_ok_of_bind {ε α β : Type} {x : Except ε α} {f : α → Except ε β} {b : β}
    (h : x >>= f = .ok b) : ∃ a, x = .ok a ∧ f a = .ok b := by
  cases x with
  | error e => cases h
  | ok a => exact ⟨a, rfl, h⟩

theorem exists_of_mem_mapM {ε α β : Type} {f : α → Except ε β} {as : List α} {bs : List β}
    (h : as.mapM f = .ok bs) : ∀ b ∈ bs, ∃ a ∈ as, f a = .ok b := by
  induction as generalizing bs with
  | nil =>
      cases h
      nofun
  | cons a as ih =>
      rw [List.mapM_cons] at h
      obtain ⟨b, ha, h⟩ := exists_ok_of_bind h
      obtain ⟨rest, has, h⟩ := exists_ok_of_bind h
      cases h
      rw [List.forall_mem_cons]
      refine ⟨⟨a, List.mem_cons_self, ha⟩, fun b' hb' => ?_⟩
      obtain ⟨a', ha', hfa'⟩ := ih has b' hb'
      exact ⟨a', List.mem_cons_of_mem _ ha', hfa'⟩

theorem Config.builtin_of_checkerNamed {config : Config} {name : String} {c : Checker}
    (h : config.checkerNamed name = .ok c) : Builtin c := by
  unfold checkerNamed at h
  split at h
  next => cases h; exact .header _
  next => cases h; exact .spacing _
  next =>
    obtain ⟨settings, -, h⟩ := exists_ok_of_bind h
    cases h
    exact .docstring settings
  next => cases h; exact .names
  next => cases h; exact .comments
  next => cases h; exact .formatting
  next => cases h; exact .python3
  next => cases h; exact .testClass
  next => cases h

namespace Analyzer

variable {a : Analyzer} {parser : Parser} {tree : FileTree} {files : List (Path × ModulePath)}
  {v : Violation} {f : SourceFile × Module} {lib : Library}

theorem linter_of_build {config : Config} {checkers : List Checker} {root : Path}
    {exclude : List String} {pythonPath : List Path}
    (h : buildBy parser tree config checkers root exclude pythonPath = .ok a) :
    Linter.build (checkers.filter fun c => config.isEnabled c.name) (policyOf config) =
      .ok a.linter := by
  obtain ⟨exclusions, -, h⟩ := exists_ok_of_bind h
  dsimp only at h
  split at h
  next linter hlinter =>
    cases h
    exact hlinter
  next => cases h

/-- An analyzer of a configuration has checkers of the library and knows no other messages. -/
theorem known_of_build {config : Config} {names : List String} {checkers : List Checker}
    (hcheckers : config.checkersNamed names = .ok checkers) {root : Path} {exclude : List String}
    {pythonPath : List Path}
    (h : buildBy parser tree config checkers root exclude pythonPath = .ok a) :
    (∀ c ∈ a.linter.checkers, Builtin c) ∧ a.linter.catalog.Known := by
  have hbuiltin : ∀ c ∈ checkers.filter fun c => config.isEnabled c.name, Builtin c := by
    intro c hc
    obtain ⟨name, -, hname⟩ := exists_of_mem_mapM hcheckers c (List.mem_of_mem_filter hc)
    exact Config.builtin_of_checkerNamed hname
  have hlinter := linter_of_build h
  unfold Linter.build at hlinter
  cases hcatalog : Linter.catalogOf (checkers.filter fun c => config.isEnabled c.name) with
  | error e =>
      rw [hcatalog] at hlinter
      cases hlinter
  | ok catalog =>
      rw [hcatalog] at hlinter
      rw [← Except.ok.inj hlinter]
      exact ⟨hbuiltin, Catalog.known_initial.registerAll hbuiltin hcatalog⟩

theorem exists_file_of_mem_readable (h : f ∈ a.readable tree files) :
    ∃ file ∈ files, f.1.shownAs = file.1.relativeTo a.base := by
  obtain ⟨file, hfile, hread⟩ := List.mem_filterMap.mp h
  obtain ⟨content, -, rfl⟩ := Option.map_eq_some_iff.mp hread
  exact ⟨file, hfile, rfl⟩

/-- What a run finds was found in some file that is a text. -/
theorem of_mem_foldl_checkFile {sofar : Report × Library}
    (h : v ∈ (files.foldl (a.checkFile tree) sofar).1.violations) :
    v ∈ sofar.1.violations ∨
      ∃ f ∈ a.readable tree files, ∃ lib, v ∈ (a.reportOn lib f).violations := by
  -- A file is checked with the library that the files before it have left, hence some library.
  induction files generalizing sofar with
  | nil => exact .inl h
  | cons file files ih =>
      rw [List.foldl_cons] at h
      have hrest : ∀ f, f ∈ a.readable tree files → f ∈ a.readable tree (file :: files) :=
        fun f hf => (List.sublist_cons_self file files).filterMap _ |>.subset hf
      rcases ih h with h | ⟨f, hf, hv⟩
      · cases hread : tree.readText? file.1 with
        | none => exact .inl (checkFile_of_unreadable hread sofar ▸ h)
        | some content =>
            rw [checkFile_of_readable hread rfl] at h
            rcases List.mem_append.mp h with h | h
            · exact .inl h
            · refine .inr ⟨a.withModule file content, ?_, sofar.2, h⟩
              exact List.mem_filterMap.mpr ⟨file, List.mem_cons_self, by rw [hread]; rfl⟩
      · exact .inr ⟨f, hrest f hf, hv⟩

/-- A violation speaks of source text over several lines: it names such a parameter of a file, or
it quotes the error that ended the check of a file. -/
def Breaks (a : Analyzer) (tree : FileTree) (files : List (Path × ModulePath)) (v : Violation) :
    Prop :=
  ∃ f ∈ a.readable tree files, v.NamesBroken f.2 ∨
    ∃ lib error, (a.linter.check f.1 f.2 lib).error = some error ∧ v.QuotesBroken error

theorem Breaks.exists_arg (h : a.Breaks tree files v) : ∃ arg ∈ v.args, ¬ OneLine arg := by
  obtain ⟨f, -, ⟨-, _, _, p, -, -, hargs, hname⟩ | ⟨_, error, -, -, hargs, herror⟩⟩ := h
  · exact ⟨p.name, by simp [hargs], hname⟩
  · exact ⟨error.message, by simp [hargs], herror⟩

/-- If a message takes all its arguments, and one of them can only hold a newline if it is such a
text, then nothing else breaks the line. -/
theorem not_oneLine_iff_breaks {entry : CatalogEntry} (hentry : entry ∈ Builtin.registry)
    (hcode : v.code = entry.message.code) (hmessage : v.message = entry.message.render v.args)
    (hfile : OneLine v.location.file.toString)
    (hargs : (∀ arg ∈ v.args, OneLine arg) ∨
      ∃ arg, v.args = [arg] ∧ 1 ≤ MessageDef.placeholders entry.message.summary.toList ∧
        (¬ OneLine arg → a.Breaks tree files v)) :
    ¬ OneLine v.render ↔ a.Breaks tree files v := by
  have hrender : OneLine v.render ↔ ∀ arg ∈ v.args, OneLine arg := by
    apply Violation.oneLine_render_iff_args hentry hcode hmessage hfile
    rcases hargs with hargs | ⟨arg, hone, htakes, -⟩
    · exact .inl hargs
    · exact .inr (by simpa [hone] using htakes)
  constructor
  · intro hbroken
    rcases hargs with hargs | ⟨arg, hone, -, hbreaks⟩
    · exact absurd (hrender.mpr hargs) hbroken
    · exact hbreaks fun harg => hbroken (hrender.mpr (by simpa [hone] using harg))
  · intro hbreaks hline
    obtain ⟨arg, harg, hbroken⟩ := hbreaks.exists_arg
    exact hbroken (hrender.mp hline arg harg)

theorem not_oneLine_iff_of_mem_check (hbuiltin : ∀ c ∈ a.linter.checkers, Builtin c)
    (hknown : a.linter.catalog.Known) (hf : f ∈ a.readable tree files)
    (hshown : OneLine f.1.shownAs.toString)
    (h : v ∈ (a.linter.check f.1 f.2 lib).violations) :
    ¬ OneLine v.render ↔ a.Breaks tree files v := by
  obtain ⟨entry, hentry, hcode, hmessage, hfile, hargs⟩ :=
    Linter.exists_wording_of_mem_check hbuiltin hknown h
  apply not_oneLine_iff_breaks hentry hcode hmessage (hfile ▸ hshown)
  refine hargs.imp_right ?_
  rintro ⟨hmsg, node, fn, p, hfn, hp, hone⟩
  have htakes : ∀ msg ∈ [DocstringRule.missingParam, DocstringRule.missingType],
      1 ≤ MessageDef.placeholders msg.summary.toList := by decide +kernel
  refine ⟨p.name, hone, htakes _ hmsg, fun hname => ⟨f, hf, .inl ⟨?_, ?_⟩⟩⟩
  · rw [hcode]
    exact List.mem_map_of_mem (f := MessageDef.code) hmsg
  · exact ⟨node, fn, p, hfn, hp, hone, hname⟩

theorem not_oneLine_iff_of_abortion? (hf : f ∈ a.readable tree files)
    (hshown : OneLine f.1.shownAs.toString) {error : CheckError}
    (herror : (a.linter.check f.1 f.2 lib).error = some error)
    (h : a.abortion? f.1 error = some v) : ¬ OneLine v.render ↔ a.Breaks tree files v := by
  have hentry : ⟨Catalog.abortMessage, Catalog.host⟩ ∈ Builtin.registry :=
    Catalog.known_initial _ (List.mem_singleton.mpr rfl)
  unfold abortion? at h
  dsimp only at h
  rw [Option.ite_none_right_eq_some] at h
  obtain rfl := Option.some.inj h.2
  refine not_oneLine_iff_breaks hentry rfl rfl hshown (.inr ⟨error.message, rfl, by decide, ?_⟩)
  exact fun hmessage => ⟨f, hf, .inr ⟨lib, error, herror, rfl, rfl, hmessage⟩⟩

theorem abortion?_of_wanted (h : a.linter.policy.isEnabled Catalog.abortMessage.code)
    (file : SourceFile) (error : CheckError) :
    ∃ v, a.abortion? file error = some v ∧ v.code = Catalog.abortMessage.code ∧
      v.location.file = file.shownAs ∧
        v.message = Catalog.abortMessage.render [error.message] := by
  simp [abortion?, h]

/-- The compact form of a report has a line for each violation exactly if none speaks of source
text over several lines, for every configuration and every tree with files that are shown on one
line. -/
theorem run_compactLines {config : Config} {names : List String} {checkers : List Checker}
    (hcheckers : config.checkersNamed names = .ok checkers) {root : Path}
    {exclude : List String} {pythonPath : List Path}
    (hbuild : buildBy parser tree config checkers root exclude pythonPath = .ok a)
    (hfiles : a.targets tree = .ok files)
    (hshown : ∀ file ∈ files, OneLine (file.1.relativeTo a.base).toString) :
    ∃ report, a.run tree = .ok report ∧
      (∀ v ∈ report.violations, ¬ OneLine v.render ↔ a.Breaks tree files v) ∧
      ((report.render .compact).toList.count '\n' = report.violations.length ↔
        ∀ v ∈ report.violations, ¬ a.Breaks tree files v) := by
  obtain ⟨hbuiltin, hknown⟩ := known_of_build hcheckers hbuild
  have hrun : a.run tree =
      .ok (files.foldl (a.checkFile tree) (.empty, a.freshLibrary tree files)).1.sort := by
    rw [run, hfiles]
    rfl
  have hlines : ∀ v ∈ (files.foldl (a.checkFile tree)
      (.empty, a.freshLibrary tree files)).1.sort.violations,
        ¬ OneLine v.render ↔ a.Breaks tree files v := by
    intro v hv
    rcases of_mem_foldl_checkFile (List.mem_mergeSort.mp hv) with hv | ⟨f, hf, lib, hv⟩
    · cases hv
    · obtain ⟨file, hfile, hpath⟩ := exists_file_of_mem_readable hf
      have hone : OneLine f.1.shownAs.toString := hpath ▸ hshown file hfile
      rcases List.mem_append.mp hv with hv | hv
      · exact not_oneLine_iff_of_mem_check hbuiltin hknown hf hone hv
      · obtain ⟨error, herror, hv⟩ := Option.bind_eq_some_iff.mp (Option.mem_toList.mp hv)
        exact not_oneLine_iff_of_abortion? hf hone herror hv
  refine ⟨_, hrun, hlines, ?_⟩
  rw [Report.render, Report.lines, ← List.length_map Violation.render,
    count_unlines_eq_length_iff, List.forall_mem_map]
  exact forall₂_congr fun v hv => by rw [← hlines v hv, not_not]

/-- A method without docstring, in a class whose interface is written over two lines. -/
def abortingFile : SourceFile where
  path := .ofString "m.py"
  content := "@implementer(I(\n))\nclass C:\n    def f(self):\n        pass\n".toList
  moduleName := "m"
  shownAs := .ofString "m.py"

/-- A configuration that leaves no file out. -/
def searchingAll : Config :=
  { Config.default with search := ⟨.ofString ".", [], false, []⟩ }

def abortingSources : FileTree := .directory [("m.py", .text abortingFile.content)]

/-- The analyzer of that configuration for the file alone. -/
def ofAborting : Analyzer where
  parser := .python
  root := .ofString "/m.py"
  base := .ofString "/"
  linter := .configured [DocstringRule.checker .default] .none []
  exclusions := []
  importRoots := []
  respectGitignore := false

theorem run_compactLines_aborting :
    let checkers := [DocstringRule.checker .default]
    let files : List (Path × ModulePath) :=
      [(.ofString "/m.py", abortingSources.moduleAt (.ofString "/m.py"))]
    searchingAll.checkersNamed ["docstring"] = .ok checkers ∧
      build abortingSources searchingAll checkers (.ofString "/m.py") [] [] = .ok ofAborting ∧
      ofAborting.targets abortingSources = .ok files ∧
      (∀ file ∈ files, OneLine (file.1.relativeTo ofAborting.base).toString) ∧
      ∃ report, ofAborting.run abortingSources = .ok report ∧
        ((report.render .compact).toList.count '\n' = report.violations.length ↔
          ∀ v ∈ report.violations, ¬ ofAborting.Breaks abortingSources files v) := by
  intro checkers files
  have hcheckers : searchingAll.checkersNamed ["docstring"] = .ok checkers := rfl
  have hbuild : build abortingSources searchingAll checkers (.ofString "/m.py") [] [] =
      .ok ofAborting := by
    have hunambiguous : Catalog.Unambiguous ⟨Linter.entriesFor checkers⟩ :=
      Linter.unambiguous_entriesFor (by simpa [checkers] using .docstring _) (by simp [checkers])
    have hlinter : Linter.build (checkers.filter fun c => searchingAll.isEnabled c.name)
        (policyOf searchingAll) = .ok ofAborting.linter :=
      Linter.build_of_unambiguous hunambiguous _
    have hbase : baseOf abortingSources (.ofString "/m.py") = ofAborting.base := by decide +kernel
    rw [build, buildBy, hlinter, hbase]
    rfl
  have hfiles : ofAborting.targets abortingSources = .ok files := by
    have hfile : abortingSources.isFile ofAborting.root := by decide +kernel
    rw [targets, FileTree.pythonFiles?, if_pos hfile]
    rfl
  have hshown : ∀ file ∈ files, OneLine (file.1.relativeTo ofAborting.base).toString := by
    decide +kernel
  obtain ⟨report, hrun, -, hlines⟩ := run_compactLines hcheckers hbuild hfiles hshown
  exact ⟨hcheckers, hbuild, hfiles, hshown, report, hrun, hlines⟩

def abortingTree : Tree :=
  .node .file .plain ⟨1, 0⟩ []
    [.node .decorated .plain ⟨1, 0⟩ []
      [.node .decorator .plain ⟨1, 0⟩ []
        [.node .call .plain ⟨1, 1⟩ "implementer(I(\n))".toList
          [.node .identifier .function ⟨1, 1⟩ "implementer".toList [],
            .node .arguments .arguments ⟨1, 12⟩ "(I(\n))".toList
              [.node .call .plain ⟨1, 13⟩ "I(\n)".toList
                [.node .identifier .function ⟨1, 13⟩ "I".toList [],
                  .node .arguments .arguments ⟨1, 14⟩ "(\n)".toList []]]]],
        .node .classDefinition .definition ⟨3, 0⟩ []
          [.node .identifier .name ⟨3, 6⟩ "C".toList [],
            .node .block .body ⟨4, 4⟩ []
              [.node .functionDefinition .plain ⟨4, 4⟩ []
                [.node .identifier .name ⟨4, 8⟩ "f".toList [],
                  .node .parameters .parameters ⟨4, 9⟩ "(self)".toList
                    [.node .identifier .plain ⟨4, 10⟩ "self".toList []],
                  .node .block .body ⟨5, 8⟩ [] []]]]]]

theorem isEnabled_abort_ofAborting :
    ofAborting.linter.policy.isEnabled Catalog.abortMessage.code := by
  have hunambiguous : Catalog.Unambiguous ⟨Linter.entriesFor [DocstringRule.checker .default]⟩ :=
    Linter.unambiguous_entriesFor (by simpa using .docstring _) (by simp)
  have hentry : ⟨Catalog.abortMessage, Catalog.host⟩ ∈
      Linter.entriesFor [DocstringRule.checker .default] :=
    List.mem_append_left _ (List.mem_singleton.mpr rfl)
  apply Policy.isEnabled_ofFilter.mpr
  exact ⟨.inl ((Policy.mem_defaultCodes hunambiguous hentry).mpr rfl), nofun⟩

/-- The violation that quotes the error goes on in a second line of the report. -/
theorem reportOn_aborting_breaks :
    let m := Module.ofTree "m" (.ofString "m.py") abortingFile.content abortingTree
    ∃ v ∈ (ofAborting.reportOn (.ofModules []) (abortingFile, m)).violations,
      ¬ OneLine v.render := by
  intro m
  have herror : (ofAborting.linter.check abortingFile m (.ofModules [])).error =
      some (.lookup "I(\n) in m") := by decide +kernel
  obtain ⟨v, hv, hcode, hfile, hmessage⟩ := abortion?_of_wanted isEnabled_abort_ofAborting
    abortingFile (.lookup "I(\n) in m")
  refine ⟨v, List.mem_append_right _ ?_, ?_⟩
  · rw [herror, Option.bind_some, hv]
    exact List.mem_singleton.mpr rfl
  · rw [Violation.oneLine_render_iff (hfile ▸ by decide) (hcode ▸ by decide), hmessage]
    decide

end Analyzer

end CodingStandard
