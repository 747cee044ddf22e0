import CodingStandard.Proofs.Isolation
import CodingStandard.Proofs.Scoping
import CodingStandard.Proofs.SearchTermination

namespace CodingStandard

/-!
# Methods without docstring

An undocumented method is excused by an interface of its class that defines it. Asking for the
interface is the only step of any checker that can fail, so the undocumented methods decide
whether a file is checked to its end.
-/

namespace DocstringRule

/-- The function at a node is a method without docstring of a class, and only an interface of the
class can excuse it. -/
structure NeedsInterface (settings : Settings) (m : Module) (n : Nat) (f : FunctionDef)
    (c : ClassDef) : Prop where
  function : m.kind? n = some (.functionDef f)
  undocumented : f.doc = none
  notIgnored : settings.ignored.matchesIn f.name.toList = false
  notNested : m.isNestedInFunction n = false
  notSetter : f.hasDecoratorEnding ".setter" = false
  method : m.isMethod n = true
  ofClass : ∃ id, m.enclosingClass? n = some id ∧ m.kind? id = some (.classDef c)

/-- An interface that fails is asked about the method before one that defines it. -/
def Aborts (settings : Settings) (m : Module) (lib : Library) (n : Nat) (e : CheckError) : Prop :=
  ∃ f c, NeedsInterface settings m n f c ∧
    Interface.FailsFirst m lib f.name (Interface.implemented c) e

/-- No interface defines the method, and none fails except by imports that go in circles. -/
def Unexcused (settings : Settings) (m : Module) (lib : Library) (n : Nat) : Prop :=
  ∃ f c, NeedsInterface settings m n f c ∧
    ∀ interface ∈ Interface.implemented c, Interface.Passes m lib f.name interface

/-- The message about a missing docstring. -/
def complaint (m : Module) (n : Nat) : Emission :=
  .about m n missingDocstring.code (m.lineOf n) []

variable {settings : Settings} {m : Module} {lib other : Library} {n : Nat} {f : FunctionDef}
  {c : ClassDef} {e : CheckError}

/-- The visit of a method that the interfaces of its class have been asked about. -/
def visitAfter (m : Module) (n : Nat) : Except CheckError Bool × Library → Visit
  | (.ok true, lib) => .emitting lib []
  | (.ok false, lib) => .emitting lib [complaint m n]
  | (.error e, lib) => ⟨[], lib, some e⟩

theorem library_visitAfter (answer : Except CheckError Bool × Library) :
    (visitAfter m n answer).library = answer.2 := by
  rcases answer with ⟨_ | _ | _, lib⟩ <;> rfl

theorem error_visitAfter_iff (answer : Except CheckError Bool × Library) :
    (visitAfter m n answer).error = some e ↔ answer.1 = .error e := by
  rcases answer with ⟨_ | _ | _, lib⟩ <;> simp [visitAfter, Visit.emitting]

theorem NeedsInterface.name?_eq (h : NeedsInterface settings m n f c) :
    m.name? n = some f.name := by
  simp [Module.name?, h.function, NodeKind.name?]

theorem NeedsInterface.class?_eq (h : NeedsInterface settings m n f c) :
    (m.enclosingClass? n).bind m.class? = some c := by
  obtain ⟨id, hid, hclass⟩ := h.ofClass
  simp [hid, Module.class?, hclass, NodeKind.class?]

theorem NeedsInterface.visit_eq (h : NeedsInterface settings m n f c) (lib : Library) :
    visit settings m lib n =
      visitAfter m n (Interface.anyDefines m f.name lib (Interface.implemented c)) := by
  have hdoc : m.doc? n = none := by simp [Module.doc?, h.function, NodeKind.doc?, h.undocumented]
  have hfunction : m.function? n = some f := by
    simp [Module.function?, h.function, NodeKind.function?]
  have hignored : isIgnored settings m n = false := by simp [isIgnored, h.name?_eq, h.notIgnored]
  have hexempt : isExempt m n = false := by
    simp [isExempt, h.notNested, hfunction, h.notSetter]
  have hdocuments : Interface.documents m lib n =
      Interface.anyDefines m f.name lib (Interface.implemented c) := by
    simp only [Interface.documents, h.method, h.name?_eq, h.class?_eq, if_true]
  rw [visit, if_neg (by simp [hignored]), hdoc]
  dsimp only
  rw [visitMissing, if_neg (by simp [hexempt]), hdocuments]
  rfl

theorem exists_function_of_isMethod (h : m.isMethod n = true) :
    ∃ f, m.kind? n = some (.functionDef f) :=
  Module.isKind_isFunction_iff.mp (Module.isMethod_iff.mp h).1

theorem NeedsInterface.lt_size (h : NeedsInterface settings m n f c) : n < m.nodes.size :=
  Module.lt_size_of_isKind (Module.isMethod_iff.mp h.method).1

theorem kind?_of_class? {id : Nat} (h : m.class? id = some c) :
    m.kind? id = some (.classDef c) := by
  obtain ⟨kind, hkind, hclass⟩ := Option.bind_eq_some_iff.mp h
  cases kind with
  | classDef c' => exact Option.some.inj hclass ▸ hkind
  | _ => cases hclass

/-- Only a method without docstring makes a visit ask the library. -/
theorem exists_emitting_or_needsInterface (settings : Settings) (m : Module) (n : Nat) :
    (∃ found, ∀ lib, visit settings m lib n = .emitting lib found) ∨
      ∃ f c, NeedsInterface settings m n f c := by
  by_cases hignored : isIgnored settings m n
  · exact .inl ⟨[], fun lib => by simp [visit, hignored]⟩
  cases hdoc : m.doc? n with
  | some doc =>
      exact .inl ⟨ofDocstring settings m n doc, fun lib => by simp [visit, hignored, hdoc]⟩
  | none =>
      have hvisit : ∀ lib, visit settings m lib n = visitMissing m lib n := fun lib => by
        simp [visit, hignored, hdoc]
      by_cases hexempt : isExempt m n
      · exact .inl ⟨[], fun lib => by simp [hvisit, visitMissing, hexempt]⟩
      -- A node that is not asked about at the interfaces of a class gets the message at once.
      have hmissing : (∀ lib, Interface.documents m lib n = (.ok false, lib)) →
          ∃ found, ∀ lib, visit settings m lib n = .emitting lib found := fun hdocuments =>
        ⟨[complaint m n], fun lib => by
          rw [hvisit, visitMissing, if_neg hexempt, hdocuments]
          rfl⟩
      by_cases hmethod : m.isMethod n
      case neg => exact .inl (hmissing fun lib => by simp [Interface.documents, hmethod])
      obtain ⟨f, hfunction⟩ := exists_function_of_isMethod hmethod
      cases hclass : (m.enclosingClass? n).bind m.class? with
      | none =>
          refine .inl (hmissing fun lib => ?_)
          cases m.name? n <;> simp [Interface.documents, hmethod, hclass]
      | some c =>
          obtain ⟨id, hid, hc⟩ := Option.bind_eq_some_iff.mp hclass
          refine .inr ⟨f, c, hfunction, ?_, ?_, ?_, ?_, hmethod, id, hid,
            kind?_of_class? hc⟩
          · simpa [Module.doc?, hfunction, NodeKind.doc?] using hdoc
          · simpa [isIgnored, Module.name?, hfunction, NodeKind.name?] using hignored
          · simp only [isExempt, Bool.or_eq_true, not_or] at hexempt
            simpa using hexempt.1
          · simp only [isExempt, Bool.or_eq_true, not_or] at hexempt
            simpa [Module.function?, hfunction, NodeKind.function?] using hexempt.2

/-- A visit fails exactly where the interfaces of a class do. -/
theorem visit_error_iff (hlib : lib.Terminates) :
    (visit settings m lib n).error = some e ↔ Aborts settings m lib n e := by
  constructor
  · intro herror
    rcases exists_emitting_or_needsInterface settings m n with ⟨found, hvisit⟩ | ⟨f, c, hneeds⟩
    · rw [hvisit] at herror
      cases herror
    · rw [hneeds.visit_eq, error_visitAfter_iff] at herror
      exact ⟨f, c, hneeds, (Interface.anyDefines_eq_error_iff hlib _).mp herror⟩
  · rintro ⟨f, c, hneeds, hfails⟩
    rw [hneeds.visit_eq, error_visitAfter_iff]
    exact (Interface.anyDefines_eq_error_iff hlib _).mpr hfails

theorem find_visit (settings : Settings) (m : Module) (hlib : lib.Terminates) (n : Nat) :
    (visit settings m lib n).library.find = lib.find := by
  rcases exists_emitting_or_needsInterface settings m n with ⟨found, hvisit⟩ | ⟨f, c, hneeds⟩
  · rw [hvisit]
    rfl
  · rw [hneeds.visit_eq, library_visitAfter, Interface.find_anyDefines hlib]

theorem Unexcused.visit_eq (h : Unexcused settings m lib n) (hlib : lib.Terminates) :
    ∃ lib', visit settings m lib n = .emitting lib' [complaint m n] := by
  obtain ⟨f, c, hneeds, hpasses⟩ := h
  have hanswer := Interface.anyDefines_of_passes hlib hpasses
  rw [hneeds.visit_eq]
  revert hanswer
  generalize Interface.anyDefines m f.name lib (Interface.implemented c) = answer
  obtain ⟨found, lib'⟩ := answer
  rintro ⟨⟩
  exact ⟨lib', rfl⟩

theorem Aborts.congr (h : lib.find = other.find) (hlib : lib.Terminates)
    (haborts : Aborts settings m lib n e) : Aborts settings m other n e := by
  obtain ⟨f, c, hneeds, hfails⟩ := haborts
  exact ⟨f, c, hneeds, hfails.congr h hlib⟩

theorem Unexcused.congr (h : lib.find = other.find) (hlib : lib.Terminates)
    (hunexcused : Unexcused settings m lib n) : Unexcused settings m other n := by
  obtain ⟨f, c, hneeds, hpasses⟩ := hunexcused
  exact ⟨f, c, hneeds, fun interface hmem => (hpasses interface hmem).congr h hlib⟩

theorem Unexcused.not_aborts (h : Unexcused settings m lib n) (hlib : lib.Terminates) :
    ¬ Aborts settings m lib n e := by
  obtain ⟨lib', hvisit⟩ := h.visit_eq hlib
  intro haborts
  rw [← visit_error_iff hlib, hvisit] at haborts
  cases haborts

theorem Aborts.unique {e' : CheckError} (h : Aborts settings m lib n e)
    (h' : Aborts settings m lib n e') (hlib : lib.Terminates) : e = e' := by
  rw [← visit_error_iff hlib] at h h'
  exact Option.some.inj (h.symm.trans h')

/-- The interfaces of the class that a method belongs to. -/
def interfaces? (m : Module) (n : Nat) : Option (List String) :=
  ((m.enclosingClass? n).bind m.class?).map Interface.implemented

theorem Aborts.exists_failsFirst (h : Aborts settings m lib n e) :
    n < m.nodes.size ∧ m.isMethod n = true ∧ ∃ method interfaces, m.name? n = some method ∧
      interfaces? m n = some interfaces ∧ Interface.FailsFirst m lib method interfaces e := by
  obtain ⟨f, c, hneeds, hfails⟩ := h
  refine ⟨hneeds.lt_size, hneeds.method, f.name, _, hneeds.name?_eq, ?_, hfails⟩
  rw [interfaces?, hneeds.class?_eq, Option.map_some]

/-- The methods of classes without interfaces end no check. -/
theorem not_aborts_of_nil
    (h : ∀ n < m.nodes.size, m.isMethod n = true → interfaces? m n = some []) :
    ∀ n e, ¬ Aborts settings m lib n e := by
  intro n e haborts
  obtain ⟨hlt, hmethod, method, interfaces, -, hinterfaces, hfails⟩ := haborts.exists_failsFirst
  obtain rfl := Option.some.inj ((h n hlt hmethod).symm.trans hinterfaces)
  exact Interface.not_failsFirst_nil hfails

/-- Methods that the first interface of their class defines end no check. -/
theorem not_aborts_of_first {interface method : String}
    (hdefines : (Interface.defines m lib interface method).1 = .ok true) (rest : List String)
    (h : ∀ n < m.nodes.size, m.isMethod n = true →
      interfaces? m n = some (interface :: rest) ∧ m.name? n = some method) :
    ∀ n e, ¬ Aborts settings m lib n e := by
  intro n e haborts
  obtain ⟨hlt, hmethod, method, interfaces, hname, hinterfaces, hfails⟩ :=
    haborts.exists_failsFirst
  obtain ⟨hfirst, hsame⟩ := h n hlt hmethod
  obtain rfl := Option.some.inj (hfirst.symm.trans hinterfaces)
  obtain rfl := Option.some.inj (hsame.symm.trans hname)
  exact Interface.not_failsFirst_of_true hdefines rest hfails

end DocstringRule

/-- What is reported about a line says that the message is wanted there. -/
theorem Sink.reports_of_reported? {sink : Sink} (h : sink.catalog.Unambiguous)
    {entry : CatalogEntry} (hentry : entry ∈ sink.catalog.registered) {e other : Emission}
    (hv : sink.reported? other = some (sink.violationOf entry e)) : sink.reports entry e.line := by
  obtain ⟨found, hfound, hreports⟩ := Option.bind_eq_some_iff.mp hv
  rw [Option.ite_none_right_eq_some, Option.some.injEq] at hreports
  obtain ⟨hreports, hsame⟩ := hreports
  have hcode : found.message.code = entry.message.code := congrArg Violation.code hsame
  obtain rfl := h.eq_of_name (h.get?_eq_some_iff.mp hfound).1 hentry (.inl hcode) (.inl rfl)
  have hline : clampLine sink.file.content other.line = clampLine sink.file.content e.line :=
    congrArg (fun v : Violation => v.location.line) hsame
  rw [reports, hline] at hreports
  exact hreports

namespace Linter

open DocstringRule

/-! ## Runs -/

/-- What a run leaves as it was: the answers of the library and the ways of the sink, which has
grown by reported messages only. -/
structure Continues (start p : Progress) : Prop where
  find : p.library.find = start.library.find
  sink : ∃ codes found, p.sink = start.sink.extend codes found ∧
    ∀ v ∈ found, ∃ e, start.sink.reported? e = some v

theorem continues_refl (p : Progress) : Continues p p :=
  ⟨rfl, [], [], by simp [Sink.extend], by simp⟩

section Runs

variable {settings : Settings} {file : SourceFile} {m : Module} {lines : Scan} {n : Nat}
  {checkers : List Checker} {c : Checker} {start p : Progress} {e : CheckError}

theorem Continues.reported?_eq (h : Continues start p) :
    p.sink.reported? = start.sink.reported? := by
  obtain ⟨codes, found, hsink, -⟩ := h.sink
  rw [hsink, Sink.reported?_extend]

theorem Continues.call (h : Continues start p) (hlib : start.library.Terminates) (hc : Builtin c)
    (file : SourceFile) (m : Module) (lines : Scan) (n : Nat) :
    Continues start (call file m lines n p c) := by
  constructor
  · rw [← h.find]
    by_cases hname : c.name = "docstring"
    · obtain ⟨settings, rfl⟩ := hc.eq_docstring hname
      exact find_visit settings m (hlib.congr h.find.symm) n
    · obtain ⟨found, hfound⟩ := hc.offline hname
      rw [Linter.call, hfound]
      rfl
  · obtain ⟨codes, found, hsink, hreported⟩ := h.sink
    rw [sink_call, hsink, Sink.extend_extend, Sink.reported?_extend]
    refine ⟨_, _, rfl, ?_⟩
    intro v hv
    rcases List.mem_append.mp hv with hv | hv
    · exact hreported v hv
    · obtain ⟨e, -, he⟩ := List.mem_filterMap.mp hv
      exact ⟨e, he⟩

/-- The call is one of the checker of docstrings, and an interface fails there. -/
def FailsAt (settings : Settings) (m : Module) (lib : Library) (x : Nat × Checker)
    (e : CheckError) : Prop :=
  x.2.name = "docstring" ∧ Aborts settings m lib x.1 e

/-- The checkers of a run, with the checker of docstrings among them. -/
structure Assembled (settings : Settings) (checkers : List Checker) : Prop where
  builtin : ∀ c ∈ checkers, Builtin c
  names : (checkers.map Checker.name).Nodup
  docstring : checker settings ∈ checkers

theorem Assembled.eq_checker (h : Assembled settings checkers) (hc : c ∈ checkers)
    (hname : c.name = "docstring") : c = checker settings :=
  List.inj_on_of_nodup_map h.names hc h.docstring hname

theorem Assembled.error_call_iff (h : Assembled settings checkers)
    (hp : Continues start p) (hlib : start.library.Terminates) (hc : c ∈ checkers) :
    (call file m lines n p c).error = some e ↔
      FailsAt settings m start.library (n, c) e := by
  by_cases hname : c.name = "docstring"
  · obtain rfl := h.eq_checker hc hname
    rw [FailsAt, and_iff_right hname]
    change (visit settings m p.library n).error = some e ↔ _
    have hlib' := hlib.congr hp.find.symm
    rw [visit_error_iff hlib']
    exact ⟨fun haborts => haborts.congr hp.find hlib',
      fun haborts => haborts.congr hp.find.symm hlib⟩
  · obtain ⟨found, hfound⟩ := (h.builtin c hc).offline hname
    rw [Linter.call, hfound]
    simp [Visit.emitting, FailsAt, hname]

/-- Calls come to their end, or to the first one that fails. -/
theorem Assembled.callAll_spec (h : Assembled settings checkers) (hp : Continues start p)
    (hlib : start.library.Terminates) (hok : p.error = none) {due : List (Nat × Checker)}
    (hdue : ∀ x ∈ due, x.2 ∈ checkers) (file : SourceFile) (m : Module) (lines : Scan) :
    let out := callAll file m lines due p
    Continues start out ∧
      (out.error = none → ∀ x ∈ due, ∀ e, ¬ FailsAt settings m start.library x e) ∧
      ∀ e, out.error = some e → ∃ front x back, due = front ++ x :: back ∧
        (∀ y ∈ front, ∀ e', ¬ FailsAt settings m start.library y e') ∧
        FailsAt settings m start.library x e := by
  induction due generalizing p with
  | nil =>
      refine ⟨hp, fun _ => List.forall_mem_nil _, fun e he => ?_⟩
      exact absurd (hok.symm.trans he) (by simp)
  | cons x due ih =>
      rw [List.forall_mem_cons] at hdue
      have hnext := hp.call hlib (h.builtin _ hdue.1) file m lines x.1
      have hcall : ∀ e, (call file m lines x.1 p x.2).error = some e ↔ _ :=
        fun e => h.error_call_iff hp hlib hdue.1
      cases herror : (call file m lines x.1 p x.2).error with
      | some e =>
          intro out
          have hout : out = call file m lines x.1 p x.2 :=
            callAll_cons_of_failed (by rw [herror]; rfl) due
          rw [hout]
          refine ⟨hnext, fun hnone => ?_, fun e' he' => ?_⟩
          · exact absurd (herror.symm.trans hnone) (by simp)
          · exact ⟨[], x, due, rfl, List.forall_mem_nil _, (hcall e').mp he'⟩
      | none =>
          have hfirst : ∀ e, ¬ FailsAt settings m start.library x e := fun e hfails => by
            rw [← hcall, herror] at hfails
            cases hfails
          intro out
          have hout : out = callAll file m lines due (call file m lines x.1 p x.2) :=
            callAll_cons (by rw [herror]; rfl) due
          rw [hout]
          obtain ⟨hcontinues, hnone, hsome⟩ := ih hnext herror hdue.2
          refine ⟨hcontinues, fun hok' => List.forall_mem_cons.mpr ⟨hfirst, hnone hok'⟩, ?_⟩
          intro e he
          obtain ⟨front, y, back, rfl, hfront, hy⟩ := hsome e he
          exact ⟨x :: front, y, back, rfl, List.forall_mem_cons.mpr ⟨hfirst, hfront⟩, hy⟩

theorem callAll_append {front : List (Nat × Checker)} (hok : p.error = none)
    (hfront : (callAll file m lines front p).error = none) (back : List (Nat × Checker)) :
    callAll file m lines (front ++ back) p =
      callAll file m lines back (callAll file m lines front p) := by
  have happend : callAll file m lines (front ++ back) p =
      if (callAll file m lines front p).error.isSome then callAll file m lines front p
      else callAll file m lines back (callAll file m lines front p) :=
    untilFailed_append (by simp [hok]) front back
  rw [happend, if_neg (by simp [hfront])]

/-- A method that no interface excuses is reported if its message is, whatever happens later. -/
theorem Assembled.mem_violations_callAll (h : Assembled settings checkers) (start : Progress)
    (hlib : start.library.Terminates) (hok : start.error = none)
    {front back : List (Nat × Checker)} (hfront : ∀ x ∈ front, x.2 ∈ checkers)
    (hpassed : ∀ x ∈ front, ∀ e, ¬ FailsAt settings m start.library x e)
    (hn : Unexcused settings m start.library n) {v : Violation}
    (hv : start.sink.reported? (complaint m n) = some v) :
    v ∈ (callAll file m lines (front ++ (n, checker settings) :: back) start).sink.violations := by
  obtain ⟨hcontinues, -, hsome⟩ :=
    h.callAll_spec (continues_refl start) hlib hok hfront file m lines
  have hnone : (callAll file m lines front start).error = none := by
    cases herror : (callAll file m lines front start).error with
    | none => rfl
    | some e =>
        obtain ⟨before, x, after, rfl, -, hx⟩ := hsome e herror
        exact absurd hx (hpassed x (by simp) e)
  rw [callAll_append hok hnone]
  revert hcontinues
  generalize callAll file m lines front start = p
  intro hcontinues
  obtain ⟨lib', hvisit⟩ :=
    (hn.congr hcontinues.find.symm hlib).visit_eq (hlib.congr hcontinues.find.symm)
  have henter : (checker settings).enter ⟨file, m, lines, n, p.sink.attempted⟩ p.library =
      .emitting lib' [complaint m n] := hvisit
  have hcall : v ∈ (call file m lines n p (checker settings)).sink.violations := by
    rw [sink_call, henter, hcontinues.reported?_eq]
    simp [Visit.emitting, hv]
  have hfailed : (call file m lines n p (checker settings)).error.isSome = false := by
    rw [Linter.call, henter]
    rfl
  rw [callAll_cons hfailed]
  exact (violations_callAll file m lines back _).subset hcall

end Runs

/-! ## Checks -/

section Agenda

variable {settings : Settings} {linter : Linter} {m : Module}

/-- The calls are due in the order of the nodes. -/
theorem pairwise_agenda (linter : Linter) (hm : m.preorder = List.range m.nodes.size) :
    (linter.agenda m).Pairwise fun x y => x.1 ≤ y.1 := by
  rw [agenda, hm, List.pairwise_flatMap]
  refine ⟨fun id _ => List.pairwise_of_forall_mem_list fun x hx y hy => ?_, ?_⟩
  · rw [(mem_callsAt.mp hx).1, (mem_callsAt.mp hy).1]
  · refine List.pairwise_lt_range.imp fun {a b} hlt x hx y hy => ?_
    rw [(mem_callsAt.mp hx).1, (mem_callsAt.mp hy).1]
    exact hlt.le

theorem mem_agenda (hm : m.preorder = List.range m.nodes.size)
    (hdocstring : checker settings ∈ linter.checkers) {n : Nat} {f : FunctionDef}
    (hn : m.kind? n = some (.functionDef f)) : (n, checker settings) ∈ linter.agenda m := by
  have hlt : n < m.nodes.size := by
    by_contra hle
    simp [Module.kind?, Array.getElem?_eq_none (Nat.le_of_not_lt hle)] at hn
  have hhook : NodeTag.functionDef ∈ (checker settings).hooks := by simp [checker]
  rw [agenda, hm]
  exact List.mem_flatMap.mpr
    ⟨n, List.mem_range.mpr hlt, mem_callsAt.mpr ⟨rfl, hdocstring, _, hn, hhook⟩⟩

/-- Before the first call that fails lie the calls for all nodes in front of its node. -/
theorem not_aborts_of_split (hm : m.preorder = List.range m.nodes.size)
    (hdocstring : checker settings ∈ linter.checkers) {lib : Library} {x : Nat × Checker}
    {front back : List (Nat × Checker)} (hsplit : linter.agenda m = front ++ x :: back)
    (hfront : ∀ y ∈ front, ∀ e, ¬ FailsAt settings m lib y e) {k : Nat} (hk : k < x.1)
    (e : CheckError) : ¬ Aborts settings m lib k e := by
  intro haborts
  have ⟨f, c, hneeds, _⟩ := haborts
  have hmem := mem_agenda hm hdocstring hneeds.function
  have hordered := linter.pairwise_agenda hm
  rw [hsplit] at hmem hordered
  rcases List.mem_append.mp hmem with hmem | hmem
  · exact hfront _ hmem e ⟨rfl, haborts⟩
  have hle : x.1 ≤ k := by
    rcases List.mem_cons.mp hmem with heq | hmem
    · rw [← heq]
    · exact List.rel_of_pairwise_cons (List.pairwise_append.mp hordered).2.1 hmem
  omega

/-- The calls in front of those for a node are for nodes in front of it, or for the node itself. -/
theorem fst_le_of_split (hm : m.preorder = List.range m.nodes.size) {x : Nat × Checker}
    {front back : List (Nat × Checker)} (hsplit : linter.agenda m = front ++ x :: back)
    {y : Nat × Checker} (hy : y ∈ front) : y.1 ≤ x.1 := by
  have hordered := linter.pairwise_agenda hm
  rw [hsplit] at hordered
  exact (List.pairwise_append.mp hordered).2.2 y hy x List.mem_cons_self

end Agenda

/-- How a check with the checker of docstrings ends. The first method that is asked about at an
interface which fails ends it. -/
structure DecidedByInterfaces (linter : Linter) (settings : Settings) (file : SourceFile)
    (m : Module) (lib : Library) : Prop where
  error_iff : ∀ e, (linter.check file m lib).error = some e ↔
    ∃ n, Aborts settings m lib n e ∧ ∀ k < n, ∀ e', ¬ Aborts settings m lib k e'
  ne_cycle : ∀ moduleName name,
    (linter.check file m lib).error ≠ some (.resolve (.cycle moduleName name))
  ne_notFound : ∀ missing, (linter.check file m lib).error ≠ some (.resolve (.notFound missing))
  /-- A method that no interface excuses does not end the check. -/
  goesOn : ∀ n, Unexcused settings m lib n → ∀ e, ¬ Aborts settings m lib n e
  /-- Such a method is reported, unless the message is turned off or silenced. -/
  reported_iff : ∀ n, Unexcused settings m lib n → (∀ k < n, ∀ e, ¬ Aborts settings m lib k e) →
    let sink := (linter.start file (scan m.source) lib).sink
    let entry : CatalogEntry := ⟨missingDocstring, "docstring"⟩
    sink.violationOf entry (complaint m n) ∈ (linter.check file m lib).violations ↔
      sink.reports entry (m.lineOf n)

section Check

variable {linter : Linter} {settings : Settings} {m : Module} {lib : Library} {n : Nat}
  {e : CheckError} (h : Assembled settings linter.checkers) (hlib : lib.Terminates)
  (hm : m.preorder = List.range m.nodes.size) (file : SourceFile)

include h hlib

theorem Assembled.check_spec :
    let start := linter.start file (scan m.source) lib
    let out := callAll file m (scan m.source) (linter.agenda m) start
    linter.check file m lib = out.report ∧ Continues start out ∧
      (out.error = none → ∀ x ∈ linter.agenda m, ∀ e, ¬ FailsAt settings m lib x e) ∧
      ∀ e, out.error = some e → ∃ front x back, linter.agenda m = front ++ x :: back ∧
        (∀ y ∈ front, ∀ e', ¬ FailsAt settings m lib y e') ∧ FailsAt settings m lib x e := by
  intro start out
  exact ⟨check_eq_untilFailed linter file m lib, h.callAll_spec (continues_refl start) hlib rfl
    (fun x hx => mem_checkers_of_mem_agenda hx) file m (scan m.source)⟩

include hm

theorem Assembled.error_check_iff :
    (linter.check file m lib).error = some e ↔
      ∃ n, Aborts settings m lib n e ∧ ∀ k < n, ∀ e', ¬ Aborts settings m lib k e' := by
  obtain ⟨hcheck, -, hnone, hsome⟩ := h.check_spec (m := m) hlib file
  have hfirst : ∀ e, (linter.check file m lib).error = some e →
      ∃ n, Aborts settings m lib n e ∧ ∀ k < n, ∀ e', ¬ Aborts settings m lib k e' := by
    intro e herror
    rw [hcheck] at herror
    obtain ⟨front, x, back, hsplit, hfront, -, haborts⟩ := hsome e herror
    exact ⟨x.1, haborts, fun k hk => not_aborts_of_split hm h.docstring hsplit hfront hk⟩
  refine ⟨hfirst e, ?_⟩
  rintro ⟨n, haborts, hleast⟩
  cases herror : (linter.check file m lib).error with
  | none =>
      have ⟨f, c, hneeds, _⟩ := haborts
      rw [hcheck] at herror
      exact absurd ⟨rfl, haborts⟩ (hnone herror _ (mem_agenda hm h.docstring hneeds.function) e)
  | some e' =>
      obtain ⟨n', haborts', hleast'⟩ := hfirst e' herror
      -- Neither of the two nodes lies in front of the other.
      rcases Nat.lt_trichotomy n n' with hlt | rfl | hlt
      · exact absurd haborts (hleast' n hlt e)
      · rw [haborts.unique haborts' hlib]
      · exact absurd haborts' (hleast n' hlt e')

/-- A check comes to its end if no method ends it. -/
theorem Assembled.error_check_eq_none_iff :
    (linter.check file m lib).error = none ↔ ∀ n e, ¬ Aborts settings m lib n e := by
  rw [Option.eq_none_iff_forall_ne_some]
  constructor
  · intro hnone n
    induction n using Nat.strongRecOn with
    | _ n ih =>
        intro e haborts
        exact hnone e ((h.error_check_iff hlib hm file).mpr ⟨n, haborts, ih⟩)
  · intro hno e herror
    obtain ⟨n, haborts, -⟩ := (h.error_check_iff hlib hm file).mp herror
    exact hno n e haborts

theorem Assembled.mem_violations_check (hn : Unexcused settings m lib n)
    (hleast : ∀ k < n, ∀ e, ¬ Aborts settings m lib k e) {v : Violation}
    (hv : (linter.start file (scan m.source) lib).sink.reported? (complaint m n) = some v) :
    v ∈ (linter.check file m lib).violations := by
  have ⟨f, c, hneeds, _⟩ := hn
  obtain ⟨front, back, hsplit⟩ :=
    List.append_of_mem (mem_agenda hm h.docstring hneeds.function)
  rw [(h.check_spec (m := m) hlib file).1, hsplit]
  refine h.mem_violations_callAll (linter.start file (scan m.source) lib) hlib rfl ?_ ?_ hn hv
  · intro x hx
    exact mem_checkers_of_mem_agenda (hsplit ▸ List.mem_append_left _ hx)
  · rintro x hx e ⟨-, haborts⟩
    rcases (fst_le_of_split hm hsplit hx).lt_or_eq with hlt | heq
    · exact hleast x.1 hlt e haborts
    · exact hn.not_aborts hlib (heq ▸ haborts)

theorem Assembled.mem_violations_check_iff
    (hcatalog : linter.catalog = ⟨entriesFor linter.checkers⟩)
    (hn : Unexcused settings m lib n) (hleast : ∀ k < n, ∀ e, ¬ Aborts settings m lib k e) :
    let sink := (linter.start file (scan m.source) lib).sink
    let entry : CatalogEntry := ⟨missingDocstring, "docstring"⟩
    sink.violationOf entry (complaint m n) ∈ (linter.check file m lib).violations ↔
      sink.reports entry (m.lineOf n) := by
  intro sink entry
  have hunambiguous : sink.catalog.Unambiguous := by
    change linter.catalog.Unambiguous
    rw [hcatalog]
    exact unambiguous_entriesFor h.builtin h.names
  have hentry : entry ∈ sink.catalog.registered := by
    change entry ∈ linter.catalog.registered
    rw [hcatalog]
    exact mem_entriesFor h.docstring (by simp [checker])
  constructor
  · intro hv
    obtain ⟨hcheck, hcontinues, -⟩ := h.check_spec (m := m) hlib file
    obtain ⟨codes, found, hsink, hreported⟩ := hcontinues.sink
    rw [hcheck, Progress.report, hsink] at hv
    obtain ⟨other, hother⟩ := hreported _ (by simpa [Linter.start, Sink.start] using hv)
    exact (Sink.reports_of_reported? hunambiguous hentry hother :)
  · intro hreports
    refine h.mem_violations_check hlib hm file hn hleast ?_
    exact (Sink.reported?_of_mem hunambiguous hentry rfl).trans (if_pos hreports)

theorem Assembled.decidedByInterfaces
    (hcatalog : linter.catalog = ⟨entriesFor linter.checkers⟩) :
    linter.DecidedByInterfaces settings file m lib where
  error_iff e := h.error_check_iff hlib hm file
  ne_cycle moduleName name hcycle := by
    obtain ⟨n, ⟨f, c, -, hfails⟩, -⟩ := (h.error_check_iff hlib hm file).mp hcycle
    exact hfails.ne_cycle moduleName name rfl
  ne_notFound missing hmissing := by
    obtain ⟨n, ⟨f, c, -, hfails⟩, -⟩ := (h.error_check_iff hlib hm file).mp hmissing
    exact hfails.ne_notFound missing rfl
  goesOn n hn e := hn.not_aborts hlib
  reported_iff n hn hleast := h.mem_violations_check_iff hlib hm file hcatalog hn hleast

end Check

theorem preorder_moduleOf (parser : Parser) (name : String) (path : Path) (source : Text) :
    (parser.moduleOf name path source).preorder =
      List.range (parser.moduleOf name path source).nodes.size := by
  have hnodes : (parser.moduleOf name path source).nodes =
      (Module.ofTree name path source (parser.parse source).tree).nodes := rfl
  rw [Module.preorder_congr hnodes, Module.preorder_ofTree, hnodes]

/-- Whatever the checkers beside it and the policy, a check with the checker of docstrings fails
exactly if the interfaces of an undocumented method do, and with the error of the first of them. The
library may find whatever modules it likes, as long as every search for a class comes to an end. -/
theorem check_decidedByInterfaces (settings : Settings) (checkers : List Checker)
    (h : Assembled settings checkers) (policy : Catalog → Policy) (file : SourceFile)
    (parser : Parser) (name : String) (path : Path) (source : Text) (lib : Library)
    (hlib : lib.Terminates) :
    ∃ linter, build checkers policy = .ok linter ∧
      linter.DecidedByInterfaces settings file (parser.moduleOf name path source) lib := by
  let linter : Linter := ⟨checkers, ⟨entriesFor checkers⟩, policy ⟨entriesFor checkers⟩⟩
  have hbuild : build checkers policy = .ok linter := by
    rw [build, catalogOf_of_unambiguous (unambiguous_entriesFor h.builtin h.names)]
    rfl
  have hassembled : Assembled settings linter.checkers := h
  have hm := preorder_moduleOf parser name path source
  exact ⟨linter, hbuild, hassembled.decidedByInterfaces hlib hm file rfl⟩

end Linter

namespace Tree

/-- A source made of statements. -/
def ofStatements (statements : List Tree) : Tree := .node .file .plain ⟨1, 0⟩ [] statements

/-- `from source import name` -/
def importing (source name : String) : Tree :=
  let kind : TreeKind := if source.toList.head? = some '.' then .relativeImport else .dottedName
  .node .importFrom .plain ⟨1, 0⟩ []
    [.node kind .moduleName ⟨1, 5⟩ source.toList [],
      .node .dottedName .name ⟨1, source.length + 13⟩ name.toList []]

def identifier (role : Role) (place : Place) (text : String) : Tree :=
  .node .identifier role place text.toList []

/-- A class with a method that has no docstring. -/
def defining (role : Role) (line : Nat) (name method : String) : Tree :=
  .node .classDefinition role ⟨line, 0⟩ []
    [identifier .name ⟨line, 6⟩ name,
      .node .block .body ⟨line + 1, 4⟩ []
        [.node .functionDefinition .plain ⟨line + 1, 4⟩ []
          [identifier .name ⟨line + 1, 8⟩ method]]]

/-- A class that implements an interface, with a method that has no docstring. -/
def implementing (line : Nat) (interface name method : String) : Tree :=
  .node .decorated .plain ⟨line, 0⟩ []
    [.node .decorator .plain ⟨line, 0⟩ []
      [.node .call .plain ⟨line, 1⟩ []
        [identifier .function ⟨line, 1⟩ "implementer",
          .node .arguments .arguments ⟨line, 12⟩ [] [identifier .plain ⟨line, 13⟩ interface]]],
    defining .definition (line + 1) name method]

end Tree

namespace Library

theorem terminates_roundabout : roundabout.Terminates :=
  terminates_of_finite (finite_find_ofModules _)

theorem lookupClass_roundabout :
    (roundabout.lookupClass "pkg" "A").1 = .error (.cycle "pkg.a" "A") := by
  apply (lookupClass_eq_iff (terminates_iff.mp terminates_roundabout ("pkg", "A"))).mpr
  exact .cycles firstMetTwice_roundabout

end Library

namespace Linter

open DocstringRule

/-- A class whose interface is imported in a circle, and one whose interface is not known. -/
def twoImplementers : Parser where
  parse _ := ⟨.ofStatements [.importing "pkg" "A", .implementing 4 "A" "C" "run",
    .implementing 10 "IMissing" "D" "run"], false⟩

/-- The first method is reported and the second one ends the check. -/
theorem check_decidedByInterfaces_twoImplementers :
    let checkers := [checker .default, Python3.checker]
    let file : SourceFile := ⟨.ofString "m.py", [], "m", .ofString "m.py"⟩
    let m := twoImplementers.moduleOf "m" (.ofString "m.py") []
    let lib := Library.roundabout
    Assembled .default checkers ∧ lib.Terminates ∧
      (Interface.defines m lib "A" "run").1 = .error (.resolve (.cycle "pkg.a" "A")) ∧
      ∃ linter, build checkers (fun _ => ⟨["W9208"], []⟩) = .ok linter ∧
        linter.DecidedByInterfaces .default file m lib ∧
        (∃ v ∈ (linter.check file m lib).violations, v.code = "W9208" ∧ v.node = some 4) ∧
        (linter.check file m lib).error = some (.lookup "IMissing in m") := by
  intro checkers file m lib
  have hassembled : Assembled .default checkers := by
    refine ⟨?_, by decide, by simp [checkers]⟩
    simp only [checkers, List.forall_mem_cons, List.not_mem_nil, false_implies, implies_true,
      and_true]
    exact ⟨.docstring _, .python3⟩
  have hlib : lib.Terminates := Library.terminates_roundabout
  have hlocate : Interface.locate m "A" = .ok (.elsewhere "pkg" "A") := rfl
  have hcycle : (Interface.defines m lib "A" "run").1 = .error (.resolve (.cycle "pkg.a" "A")) := by
    rw [Interface.defines_of_elsewhere hlocate, Library.lookupClass_roundabout]
    rfl
  obtain ⟨linter, hbuild, hdecided⟩ := check_decidedByInterfaces .default checkers hassembled
    (fun _ => ⟨["W9208"], []⟩) file twoImplementers "m" (.ofString "m.py") [] lib hlib
  have hlinter : linter = ⟨checkers, ⟨entriesFor checkers⟩, ⟨["W9208"], []⟩⟩ := by
    rw [build_of_unambiguous (unambiguous_entriesFor hassembled.builtin hassembled.names)] at hbuild
    exact (Except.ok.inj hbuild).symm
  have hunexcused : Unexcused .default m lib 4 := by
    refine ⟨_, _, ⟨rfl, rfl, by decide +kernel, rfl, rfl, rfl, 3, rfl, rfl⟩, ?_⟩
    intro interface hinterface
    obtain rfl : interface = "A" := List.mem_singleton.mp hinterface
    exact .inr ⟨"pkg.a", "A", hcycle⟩
  have haborts : Aborts .default m lib 7 (.lookup "IMissing in m") :=
    ⟨_, _, ⟨rfl, rfl, by decide +kernel, rfl, rfl, rfl, 6, rfl, rfl⟩, [], "IMissing", [], rfl,
      by simp, rfl, by simp⟩
  have hbefore : ∀ k < 7, ∀ e, ¬ Aborts .default m lib k e := by
    intro k hk e haborts
    by_cases hfour : k = 4
    · exact hdecided.goesOn 4 hunexcused e (hfour ▸ haborts)
    · obtain ⟨f, c, hneeds, -⟩ := haborts
      have hfunction := hneeds.function
      obtain rfl | rfl | rfl | rfl | rfl | rfl :
        k = 0 ∨ k = 1 ∨ k = 2 ∨ k = 3 ∨ k = 5 ∨ k = 6 := by omega
      all_goals cases hfunction
  refine ⟨hassembled, hlib, hcycle, linter, hbuild, hdecided, ?_,
    (hdecided.error_iff _).mpr ⟨7, haborts, hbefore⟩⟩
  refine ⟨_, (hdecided.reported_iff 4 hunexcused fun k hk => hbefore k (by omega)).mpr ?_, rfl, rfl⟩
  rw [hlinter]
  decide +kernel

/-- The search that the check of a module needs may have no end: here the method has no docstring,
its interface is a class of `y`, and the library asks for that module for ever. -/
theorem check_needs_endless_search :
    let known := Parser.ofTable [(Dotted.source, Dotted.parsed),
      (Dotted.user, .ofStatements [.importing "y" "I", .implementing 4 "I" "A" "f"])]
    let m := known.moduleOf "m" (.ofString "/m.py") Dotted.user
    let lib := (ImportPath.ofRootsBy known [.ofString "/"]).library Dotted.tree
    (∃ f c, NeedsInterface .default m 4 f c ∧ Interface.implemented c = ["I"]) ∧
      Interface.locate m "I" = .ok (.elsewhere "y" "I") ∧
      ¬ ∃ answer, Trail.Answers ⟨lib, [], "y", "I"⟩ answer := by
  intro known m lib
  refine ⟨?_, rfl, Dotted.not_answers rfl rfl rfl⟩
  exact ⟨_, _, ⟨rfl, rfl, by decide +kernel, rfl, rfl, rfl, 3, rfl, rfl⟩, rfl⟩

end Linter

end CodingStandard
