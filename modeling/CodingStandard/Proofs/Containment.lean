import CodingStandard.Analysis
import CodingStandard.Proofs.MissingDocstring
import CodingStandard.Proofs.ModuleCache

namespace CodingStandard

/-!
# Every file on its own

A run over many files shares one library, which remembers the modules that the files before have
asked for. Since it gives the same answers as a new one, every file is reported as if it were
checked alone, and an error of a checker stays with the file that it occurred in.
-/

/-! ## Libraries that answer alike -/

namespace Interface

variable {m : Module} {lib other : Library} {method : String}

theorem anyDefines_congr (h : lib.find = other.find) (hlib : lib.Terminates)
    (interfaces : List String) :
    (anyDefines m method lib interfaces).1 = (anyDefines m method other interfaces).1 := by
  induction interfaces generalizing lib other with
  | nil => rfl
  | cons interface rest ih =>
      have hdefines := defines_congr (m := m) h hlib interface method
      rcases defines_cases m lib method interface with htrue | hpasses | ⟨e, hfails⟩
      · rw [anyDefines_cons_of_true htrue, anyDefines_cons_of_true (hdefines.symm.trans htrue)]
      · rw [anyDefines_cons_of_passes hpasses, anyDefines_cons_of_passes (hpasses.congr h hlib)]
        have hfind := find_defines m hlib interface method
        have hfind' := find_defines m (hlib.congr h) interface method
        exact ih (hfind.trans (h.trans hfind'.symm)) (hlib.congr hfind.symm)
      · rw [anyDefines_cons_of_fails hfails, anyDefines_cons_of_fails (hfails.congr h hlib)]

end Interface

namespace DocstringRule

variable {m : Module} {lib other : Library} {n : Nat}

theorem visitAfter_congr {answer answer' : Except CheckError Bool × Library}
    (h : answer.1 = answer'.1) :
    (visitAfter m n answer).emissions = (visitAfter m n answer').emissions ∧
      (visitAfter m n answer).error = (visitAfter m n answer').error := by
  obtain ⟨found, lib⟩ := answer
  obtain ⟨_, lib'⟩ := answer'
  cases h
  rcases found with _ | _ | _ <;> exact ⟨rfl, rfl⟩

theorem visit_congr (settings : Settings) (h : lib.find = other.find) (hlib : lib.Terminates) :
    (visit settings m lib n).emissions = (visit settings m other n).emissions ∧
      (visit settings m lib n).error = (visit settings m other n).error := by
  rcases exists_emitting_or_needsInterface settings m n with ⟨found, hvisit⟩ | ⟨f, c, hneeds⟩
  · rw [hvisit, hvisit]
    exact ⟨rfl, rfl⟩
  · rw [hneeds.visit_eq, hneeds.visit_eq]
    exact visitAfter_congr (Interface.anyDefines_congr h hlib _)

end DocstringRule

/-- A checker that learns nothing from a library but the modules that it finds, and that changes
nothing about them. -/
structure Checker.AsksOnly (c : Checker) (lib : Library) : Prop where
  emissions : ∀ site other, other.find = lib.find →
    (c.enter site other).emissions = (c.enter site lib).emissions
  error : ∀ site other, other.find = lib.find →
    (c.enter site other).error = (c.enter site lib).error
  find : ∀ site other, other.find = lib.find → (c.enter site other).library.find = lib.find

theorem Builtin.asksOnly {c : Checker} (hc : Builtin c) {lib : Library} (hlib : lib.Terminates) :
    c.AsksOnly lib := by
  by_cases hname : c.name = "docstring"
  · obtain ⟨settings, rfl⟩ := hc.eq_docstring hname
    have hother : ∀ {other : Library}, other.find = lib.find → other.Terminates :=
      fun h => hlib.congr h.symm
    exact ⟨fun site other h => (DocstringRule.visit_congr settings h (hother h)).1,
      fun site other h => (DocstringRule.visit_congr settings h (hother h)).2,
      fun site other h => (DocstringRule.find_visit settings _ (hother h) _).trans h⟩
  · obtain ⟨found, hfound⟩ := hc.offline hname
    refine ⟨?_, ?_, ?_⟩ <;> intro site other h <;> simp [hfound, Visit.emitting, h]

namespace Linter

section Checks

variable {lib : Library} {p q : Progress}

/-- Two visits of a file have come equally far, with libraries that answer like a third one. -/
structure Abreast (lib : Library) (p q : Progress) : Prop where
  sink : p.sink = q.sink
  error : p.error = q.error
  find : p.library.find = lib.find
  find' : q.library.find = lib.find

theorem Abreast.call (h : Abreast lib p q) {c : Checker} (hc : c.AsksOnly lib) (file : SourceFile)
    (m : Module) (lines : Scan) (node : Nat) :
    Abreast lib (call file m lines node p c) (call file m lines node q c) := by
  have hemissions : ∀ site, (c.enter site p.library).emissions =
      (c.enter site q.library).emissions := fun site =>
    (hc.emissions site _ h.find).trans (hc.emissions site _ h.find').symm
  have herror : ∀ site, (c.enter site p.library).error = (c.enter site q.library).error :=
    fun site => (hc.error site _ h.find).trans (hc.error site _ h.find').symm
  refine ⟨?_, ?_, hc.find _ _ h.find, hc.find _ _ h.find'⟩
  · simp only [Linter.call, h.sink, hemissions]
  · simp only [Linter.call, h.sink, herror]

theorem Abreast.callAll (h : Abreast lib p q) (due : List (Nat × Checker))
    (hdue : ∀ x ∈ due, x.2.AsksOnly lib) (file : SourceFile) (m : Module) (lines : Scan) :
    Abreast lib (callAll file m lines due p) (callAll file m lines due q) := by
  induction due generalizing p q with
  | nil => exact h
  | cons x due ih =>
      rw [List.forall_mem_cons] at hdue
      have hnext := h.call hdue.1 file m lines x.1
      cases hfailed : (Linter.call file m lines x.1 p x.2).error.isSome with
      | true =>
          rwa [callAll_cons_of_failed hfailed, callAll_cons_of_failed (hnext.error ▸ hfailed)]
      | false =>
          rw [callAll_cons hfailed, callAll_cons (hnext.error ▸ hfailed)]
          exact ih hnext hdue.2

/-- What a check reports depends on the answers of the library only, and it leaves them as they
are. -/
theorem check_congr {linter : Linter} (hlinter : ∀ c ∈ linter.checkers, c.AsksOnly lib)
    {other : Library} (h : other.find = lib.find) (file : SourceFile) (m : Module) :
    (linter.check file m other).violations = (linter.check file m lib).violations ∧
      (linter.check file m other).error = (linter.check file m lib).error ∧
      (linter.check file m other).library.find = lib.find := by
  have hstart : Abreast lib (linter.start file (scan m.source) other)
      (linter.start file (scan m.source) lib) := ⟨rfl, rfl, h, rfl⟩
  have hend := hstart.callAll (linter.agenda m)
    (fun x hx => hlinter x.2 (mem_checkers_of_mem_agenda hx)) file m (scan m.source)
  rw [check_eq_untilFailed, check_eq_untilFailed]
  exact ⟨congrArg Sink.violations hend.sink, hend.error, hend.find⟩

end Checks

end Linter

/-! ## Runs over files -/

namespace Analyzer

/-- The library of the import roots before anything was asked of it. -/
def freshLibrary (a : Analyzer) (tree : FileTree) (files : List (Path × ModulePath)) : Library :=
  (ImportPath.ofRootsBy a.parser (a.importRoots ++ files.map (·.2.root))).library tree

/-- A file with a text, and its module. -/
def withModule (a : Analyzer) (file : Path × ModulePath) (content : Text) : SourceFile × Module :=
  (.under a.base file.1 content file.2.name, a.parser.moduleOf file.2.name file.1 content)

/-- The files that are texts, each with its module. -/
def readable (a : Analyzer) (tree : FileTree) (files : List (Path × ModulePath)) :
    List (SourceFile × Module) :=
  files.filterMap fun file => (tree.readText? file.1).map (a.withModule file)

/-- What a file adds to a report: the violations of its check and, if the check was aborted and
`F9001` is on, one more that says so on the first line of the file. -/
inductive Contributes (a : Analyzer) (file : SourceFile) (alone : FileReport) :
    List Violation → Prop where
  | complete (h : alone.error = none) : Contributes a file alone alone.violations
  | muted (e : CheckError) (h : alone.error = some e)
      (hoff : a.linter.policy.isEnabled "F9001" = false) :
      Contributes a file alone alone.violations
  | aborted (e : CheckError) (h : alone.error = some e)
      (hon : a.linter.policy.isEnabled "F9001" = true) (v : Violation) (hcode : v.code = "F9001")
      (hplace : v.location = ⟨file.shownAs, 1, 0, 0, 0⟩) (hargs : v.args = [e.message]) :
      Contributes a file alone (alone.violations ++ [v])

/-- The report on one file. -/
def reportOn (a : Analyzer) (lib : Library) (f : SourceFile × Module) : Report :=
  let result := a.linter.check f.1 f.2 lib
  ⟨result.violations ++ (result.error.bind (a.abortion? f.1)).toList, 1,
    if result.error.isSome then 1 else 0⟩

section Fold

variable {a : Analyzer} {tree : FileTree} {lib : Library}

theorem abortion?_of_disabled (h : a.linter.policy.isEnabled "F9001" = false) (file : SourceFile)
    (e : CheckError) : a.abortion? file e = none := by
  have hcode : Catalog.abortMessage.code = "F9001" := rfl
  simp [abortion?, hcode, h]

theorem abortion?_of_enabled (h : a.linter.policy.isEnabled "F9001" = true) (file : SourceFile)
    (e : CheckError) :
    ∃ v, a.abortion? file e = some v ∧ v.code = "F9001" ∧
      v.location = ⟨file.shownAs, 1, 0, 0, 0⟩ ∧ v.args = [e.message] := by
  have hcode : Catalog.abortMessage.code = "F9001" := rfl
  simp [abortion?, hcode, h]

theorem contributes_reportOn (a : Analyzer) (lib : Library) (f : SourceFile × Module) :
    a.Contributes f.1 (a.linter.check f.1 f.2 lib) (a.reportOn lib f).violations := by
  rw [reportOn]
  generalize a.linter.check f.1 f.2 lib = alone
  cases herror : alone.error with
  | none =>
      have hcomplete : a.Contributes f.1 alone alone.violations := .complete herror
      simpa using hcomplete
  | some e =>
      cases henabled : a.linter.policy.isEnabled "F9001" with
      | false =>
          have hmuted : a.Contributes f.1 alone alone.violations := .muted e herror henabled
          simpa [abortion?_of_disabled henabled] using hmuted
      | true =>
          obtain ⟨v, hv, hcode, hplace, hargs⟩ := abortion?_of_enabled henabled f.1 e
          simpa [hv] using Contributes.aborted e herror henabled v hcode hplace hargs

theorem reportOn_congr (hlinter : ∀ c ∈ a.linter.checkers, c.AsksOnly lib) {other : Library}
    (h : other.find = lib.find) (f : SourceFile × Module) :
    a.reportOn other f = a.reportOn lib f := by
  obtain ⟨hviolations, herror, -⟩ := Linter.check_congr hlinter h f.1 f.2
  rw [reportOn, reportOn, hviolations, herror]

theorem checkFile_of_unreadable {file : Path × ModulePath} (h : tree.readText? file.1 = none)
    (sofar : Report × Library) : a.checkFile tree sofar file = sofar := by
  rw [checkFile, h]

theorem checkFile_of_readable {file : Path × ModulePath} {content : Text}
    (h : tree.readText? file.1 = some content) {f : SourceFile × Module}
    (hf : a.withModule file content = f) (sofar : Report × Library) :
    a.checkFile tree sofar file =
      (sofar.1.append (a.reportOn sofar.2 f), (a.linter.check f.1 f.2 sofar.2).library) := by
  obtain ⟨source, m⟩ := f
  obtain ⟨hsource, hm⟩ := Prod.mk.inj hf
  simp only [checkFile, h, checkText, hsource, hm]
  rfl

/-- Checking files one after the other comes to the same as checking each of them alone. -/
theorem foldl_checkFile (tree : FileTree) (hlinter : ∀ c ∈ a.linter.checkers, c.AsksOnly lib)
    (files : List (Path × ModulePath)) (sofar : Report × Library)
    (h : sofar.2.find = lib.find) :
    (files.foldl (a.checkFile tree) sofar).1 =
      ((a.readable tree files).map (a.reportOn lib)).foldl Report.append sofar.1 := by
  -- The library is general: it may remember what the files before have asked for.
  induction files generalizing sofar with
  | nil => rfl
  | cons file files ih =>
      rw [List.foldl_cons, readable]
      cases hread : tree.readText? file.1 with
      | none =>
          rw [checkFile_of_unreadable hread, List.filterMap_cons_none (by rw [hread]; rfl)]
          exact ih sofar h
      | some content =>
          obtain ⟨f, hf⟩ : ∃ f, a.withModule file content = f := ⟨_, rfl⟩
          rw [checkFile_of_readable hread hf, reportOn_congr hlinter h,
            List.filterMap_cons_some (by rw [hread, Option.map_some, hf]), List.map_cons,
            List.foldl_cons]
          exact ih _ (Linter.check_congr hlinter h f.1 f.2).2.2

end Fold

theorem foldl_reportOn (a : Analyzer) (lib : Library) (fs : List (SourceFile × Module))
    (sofar : Report) :
    (fs.map (a.reportOn lib)).foldl Report.append sofar =
      ⟨sofar.violations ++ fs.flatMap fun f => (a.reportOn lib f).violations,
        sofar.filesChecked + fs.length,
        sofar.filesFailed +
          (fs.filter fun f => (a.linter.check f.1 f.2 lib).error.isSome).length⟩ := by
  induction fs generalizing sofar with
  | nil => simp
  | cons f fs ih =>
      rw [List.map_cons, List.foldl_cons, ih, List.flatMap_cons, List.length_cons,
        List.filter_cons]
      cases herror : (a.linter.check f.1 f.2 lib).error <;>
        simp [Report.append, reportOn, herror, Nat.add_assoc, Nat.add_comm, Nat.add_left_comm]

/-- Where the relative imports of the tree name files, a new library answers every question. -/
theorem terminates_freshLibrary (a : Analyzer) {tree : FileTree}
    (hnamed : tree.RelativesNamed a.parser) (files : List (Path × ModulePath)) :
    (a.freshLibrary tree files).Terminates := by
  refine ImportPath.terminates_library (ImportPath.loaded_ofRootsBy _ _) ?_
  rwa [ImportPath.parser_ofRootsBy]

/-- A run with built-in checkers reports on every file that is a text as if it were checked alone,
by the help of a library that nothing was asked of before; whatever happens in other files has no
part in it. The relative imports in the tree have to name files, for else a check may have no end. -/
theorem run_contained (a : Analyzer) (hbuiltin : ∀ c ∈ a.linter.checkers, Builtin c)
    (tree : FileTree) (files : List (Path × ModulePath)) (hfiles : a.targets tree = .ok files)
    (hnamed : tree.RelativesNamed a.parser) :
    let alone := fun f : SourceFile × Module =>
      a.linter.check f.1 f.2 (a.freshLibrary tree files)
    ∃ report parts, a.run tree = .ok report ∧
      report.filesChecked = (a.readable tree files).length ∧
      report.filesFailed =
        ((a.readable tree files).filter fun f => (alone f).error.isSome).length ∧
      List.Forall₂ (fun f part => a.Contributes f.1 (alone f) part) (a.readable tree files) parts ∧
      report.violations = Violation.sort parts.flatten := by
  intro alone
  have hends := a.terminates_freshLibrary hnamed files
  have hlinter : ∀ c ∈ a.linter.checkers, c.AsksOnly (a.freshLibrary tree files) :=
    fun c hc => (hbuiltin c hc).asksOnly hends
  have hfold := foldl_checkFile tree hlinter files (.empty, a.freshLibrary tree files) rfl
  rw [foldl_reportOn] at hfold
  have hrun : a.run tree =
      .ok (files.foldl (a.checkFile tree) (.empty, a.freshLibrary tree files)).1.sort := by
    rw [run, hfiles]
    rfl
  refine ⟨_, (a.readable tree files).map fun f =>
    (a.reportOn (a.freshLibrary tree files) f).violations, hrun, ?_, ?_, ?_, ?_⟩
  · rw [hfold]
    simp [Report.sort, Report.empty]
  · rw [hfold]
    simp [Report.sort, Report.empty, alone]
  · rw [List.forall₂_map_right_iff]
    exact List.forall₂_same.mpr fun f _ => contributes_reportOn a _ f
  · rw [hfold]
    simp [Report.sort, Report.empty, List.flatMap_def]

/-! ## Runs over two trees -/

/-- A linter that reports what is reported by default. -/
def twoCheckers : Linter := .configured [DocstringRule.checker .default, Python3.checker] .none []

/-- An analyzer of the top directory of a tree. -/
def topmost (parser : Parser) : Analyzer where
  parser := parser
  root := .ofString "/"
  base := .ofString "/"
  linter := twoCheckers
  exclusions := []
  importRoots := []
  respectGitignore := false

theorem targets_topmost {entries : List (String × FileTree)} {files : List (Path × ModulePath)}
    (hbelow : ((FileTree.directory entries).filesBelow false (.ofString "/") entries).filter
      FileTree.isPython = files.map Prod.fst)
    (hsorted : (files.map Prod.fst).Pairwise fun a b => (Path.order a b).isLE)
    (hmodules : (files.map Prod.fst).map (fun path =>
      (path, (FileTree.directory entries).moduleAt path)) = files) (parser : Parser) :
    (topmost parser).targets (.directory entries) = .ok files := by
  have hall : (((FileTree.directory entries).filesBelow false (.ofString "/") entries).filter
      fun path => FileTree.isPython path && !Exclusion.excludes [] (.ofString "/") path) =
        files.map Prod.fst := by
    simpa [Exclusion.excludes] using hbelow
  have hfound : (FileTree.directory entries).pythonFiles? false [] (.ofString "/")
      (.ofString "/") = some (files.map Prod.fst) :=
    congrArg some ((congrArg (List.mergeSort · _) hall).trans
      (List.mergeSort_of_pairwise hsorted))
  simp only [targets, topmost, hfound, hmodules]

theorem assembled_twoCheckers : Linter.Assembled .default twoCheckers.checkers := by
  refine ⟨?_, by decide, by simp [twoCheckers, Linter.configured]⟩
  simp only [twoCheckers, Linter.configured, List.forall_mem_cons, List.not_mem_nil, false_implies,
    implies_true, and_true]
  exact ⟨.docstring _, .python3⟩

/-- The modules of a package: two that implement an interface of a third one, imported with and
without a leading dot, and one with an interface that it does not know. -/
def package : List (String × Text × Tree) :=
  [("__init__.py", [], .ofStatements []),
    ("a.py", ("from pkg.i import I\n\n\n@implementer(I)\nclass A:\n" ++
        "    def run(self):\n        pass\n").toList,
      .ofStatements [.importing "pkg.i" "I", .implementing 4 "I" "A" "run"]),
    ("b.py", ("from .i import I\n\n\n@implementer(I)\nclass B:\n" ++
        "    def run(self):\n        pass\n").toList,
      .ofStatements [.importing ".i" "I", .implementing 4 "I" "B" "run"]),
    ("c.py", "@implementer(IMissing)\nclass C:\n    def run(self):\n        pass\n".toList,
      .ofStatements [.implementing 1 "IMissing" "C" "run"]),
    ("i.py", "class I:\n    def run(self):\n        pass\n".toList,
      .ofStatements [.defining .plain 1 "I" "run"])]

def packageTree : FileTree :=
  .directory [("pkg", .directory (package.map fun entry => (entry.1, .text entry.2.1)))]

def packageParser : Parser := .ofTable (package.map Prod.snd)

def packageFiles : List (Path × ModulePath) :=
  [("/pkg/__init__.py", "pkg"), ("/pkg/a.py", "pkg.a"), ("/pkg/b.py", "pkg.b"),
    ("/pkg/c.py", "pkg.c"), ("/pkg/i.py", "pkg.i")].map
      fun (path, name) => (.ofString path, ⟨name, .ofString "/"⟩)

theorem targets_packageTree : (topmost packageParser).targets packageTree = .ok packageFiles :=
  targets_topmost (by decide +kernel) (by decide +kernel) (by decide +kernel) packageParser

theorem relativesNamed_packageTree : packageTree.RelativesNamed packageParser :=
  Parser.relativesNamed_ofTable (by decide +kernel) packageTree

theorem moduleOf_packageParser {entry : String × Text × Tree} (h : entry ∈ package) (name : String)
    (path : Path) : packageParser.moduleOf name path entry.2.1 =
      .ofTree name path entry.2.1 entry.2.2 := by
  have hnodup : ((package.map Prod.snd).map Prod.fst).Nodup := by decide +kernel
  exact Parser.moduleOf_ofTable hnodup (List.mem_map_of_mem h) name path

theorem readable_packageTree : (topmost packageParser).readable packageTree packageFiles =
    (packageFiles.zip package).map fun (file, entry) =>
      (.under (.ofString "/") file.1 entry.2.1 file.2.name,
        .ofTree file.2.name file.1 entry.2.1 entry.2.2) := by
  have hread : (topmost packageParser).readable packageTree packageFiles =
      (packageFiles.zip package).map fun (file, entry) =>
        (topmost packageParser).withModule file entry.2.1 := rfl
  rw [hread]
  refine List.map_congr_left ?_
  rintro ⟨file, entry⟩ hmem
  exact Prod.ext rfl (moduleOf_packageParser (List.of_mem_zip hmem).2 _ _)

abbrev packageLibrary : Library := (topmost packageParser).freshLibrary packageTree packageFiles

theorem ends_packageLibrary : ∃ home, packageLibrary.Ends ("pkg.i", "I") (.ok (some ⟨home, 1⟩)) ∧
    home.definesDirectly 1 "run" = true := by
  have hlast : package[4] ∈ package := List.getElem_mem _
  have hfind : packageLibrary.find "pkg.i" =
      .ok (packageParser.moduleOf "pkg.i" (.ofString "/pkg/i.py") package[4].2.1) := rfl
  rw [moduleOf_packageParser hlast] at hfind
  exact ⟨_, .atClass _ hfind ⟨_, _, rfl, rfl, rfl⟩, by decide +kernel⟩

/-- The interface documents the method of the classes that implement it. -/
theorem defines_packageLibrary {m : Module}
    (h : Interface.locate m "I" = .ok (.elsewhere "pkg.i" "I")) :
    (Interface.defines m packageLibrary "I" "run").1 = .ok true := by
  obtain ⟨home, hends, hdefines⟩ := ends_packageLibrary
  rw [Interface.defines_of_elsewhere h, Library.lookupClass_of_ends .refl hends]
  exact congrArg Except.ok hdefines

/-- The interface is remembered once it was asked for. -/
theorem remembers_packageLibrary :
    ((packageLibrary.lookupClass "pkg.i" "I").2.loaded.lookup "pkg.i").isSome := by
  obtain ⟨home, hends, -⟩ := ends_packageLibrary
  have hstep := Trail.step_of_ends (t := ⟨packageLibrary, [], "pkg.i", "I"⟩) List.not_mem_nil hends
  rw [Library.lookupClass, (Trail.Answers.stop hstep).follow_eq]
  rfl

open DocstringRule Linter in
theorem errors_packageTree :
    ((topmost packageParser).readable packageTree packageFiles).map
        (fun f => (twoCheckers.check f.1 f.2 packageLibrary).error) =
      [none, none, none, some (.lookup "IMissing in pkg.c"), none] := by
  have hends := (topmost packageParser).terminates_freshLibrary relativesNamed_packageTree
    packageFiles
  have hnone : ∀ (name : String) (path : Path) (source : Text) (tree : Tree) (file : SourceFile),
      let m := Module.ofTree name path source tree
      (∀ n e, ¬ Aborts .default m packageLibrary n e) →
        (twoCheckers.check file m packageLibrary).error = none := fun name path source tree file =>
    (assembled_twoCheckers.error_check_eq_none_iff hends
      (Module.preorder_ofTree name path source tree) file).mpr
  rw [readable_packageTree]
  refine congrArg₂ List.cons ?init <| congrArg₂ List.cons ?a <| congrArg₂ List.cons ?b <|
    congrArg₂ List.cons ?c <| congrArg₂ List.cons ?i rfl
  case init | i =>
    apply hnone
    exact not_aborts_of_nil (by decide +kernel)
  case a | b =>
    apply hnone
    apply not_aborts_of_first (defines_packageLibrary (by decide +kernel)) []
    decide +kernel
  case c =>
    apply (assembled_twoCheckers.error_check_iff hends (Module.preorder_ofTree ..) _).mpr
    refine ⟨3, ?_, ?_⟩
    · exact ⟨_, _, ⟨rfl, rfl, by decide +kernel, rfl, rfl, rfl, 2, rfl, rfl⟩, [], "IMissing", [],
        rfl, by simp, rfl, by simp⟩
    · rintro k hk e ⟨f, c, hneeds, -⟩
      have hfunction := hneeds.function
      obtain rfl | rfl | rfl : k = 0 ∨ k = 1 ∨ k = 2 := by omega
      all_goals cases hfunction

/-- The interface is found once and remembered for the second file that needs it, and the file that
is not checked to its end does not keep the others from being checked. -/
theorem run_contained_package :
    let a := topmost packageParser
    (∀ c ∈ a.linter.checkers, Builtin c) ∧ a.targets packageTree = .ok packageFiles ∧
      packageTree.RelativesNamed a.parser ∧
      (((a.freshLibrary packageTree packageFiles).lookupClass "pkg.i" "I").2.loaded.lookup
        "pkg.i").isSome ∧
      ∃ report, a.run packageTree = .ok report ∧ report.filesChecked = 5 ∧
        report.filesFailed = 1 := by
  intro a
  have hbuiltin : ∀ c ∈ a.linter.checkers, Builtin c := assembled_twoCheckers.builtin
  obtain ⟨report, parts, hrun, hchecked, hfailed, -⟩ :=
    run_contained a hbuiltin packageTree packageFiles targets_packageTree relativesNamed_packageTree
  have hlength := congrArg List.length errors_packageTree
  have hcount := congrArg (List.countP Option.isSome) errors_packageTree
  rw [List.length_map] at hlength
  rw [List.countP_map] at hcount
  refine ⟨hbuiltin, targets_packageTree, relativesNamed_packageTree, remembers_packageLibrary,
    report, hrun, hchecked.trans hlength, ?_⟩
  rw [hfailed, ← List.countP_eq_length_filter]
  exact hcount

/-- A run over two files may have no end: the first one asks the new library for a class that it
searches for without end. -/
theorem run_needs_endless_search :
    let known : List (Text × Tree) := [(Dotted.source, Dotted.parsed),
      (Dotted.user, .ofStatements [.importing "y" "I", .implementing 4 "I" "A" "f"])]
    let a := topmost (.ofTable known)
    let files : List (Path × ModulePath) :=
      [(.ofString "/m.py", ⟨"m", .ofString "/"⟩), (.ofString "/y.py", ⟨"y", .ofString "/"⟩)]
    let m := a.parser.moduleOf "m" (.ofString "/m.py") Dotted.user
    a.targets Dotted.tree = .ok files ∧
      (a.readable Dotted.tree files).head?.map Prod.snd = some m ∧
      (∃ f c, DocstringRule.NeedsInterface .default m 4 f c ∧ Interface.implemented c = ["I"]) ∧
      Interface.locate m "I" = .ok (.elsewhere "y" "I") ∧
      ¬ ∃ answer, Trail.Answers ⟨a.freshLibrary Dotted.tree files, [], "y", "I"⟩ answer := by
  intro known a files m
  have hfiles : a.targets Dotted.tree = .ok files :=
    targets_topmost (by decide +kernel) (by decide +kernel) (by decide +kernel) _
  exact ⟨hfiles, rfl, ⟨_, _, ⟨rfl, rfl, by decide +kernel, rfl, rfl, rfl, 3, rfl, rfl⟩, rfl⟩, rfl,
    Dotted.not_answers rfl rfl rfl⟩

end Analyzer

end CodingStandard
