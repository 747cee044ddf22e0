import CodingStandard.Linter
import CodingStandard.Proofs.Preorder
import CodingStandard.Proofs.Recording

namespace CodingStandard

/-!
# The calls of a check

A check is a walk through the nodes of a module that calls checkers on its way. The walk does not
depend on what a call does, so the same walk can keep a log of its calls. The main statement says
which calls a check makes: those of a schedule that goes through the nodes by their positions, up
to the first call that fails.
-/

namespace Linter

/-! ## Walks as lists of calls -/

section UntilFailed

variable {α β σ τ : Type} {step : σ → α → σ} {failed : σ → Bool}

theorem untilFailed_cons_of_failed {s : σ} {a : α} (h : failed (step s a) = true) (xs : List α) :
    untilFailed step failed (a :: xs) s = step s a := by
  simp [untilFailed, h]

theorem untilFailed_cons {s : σ} {a : α} (h : failed (step s a) = false) (xs : List α) :
    untilFailed step failed (a :: xs) s = untilFailed step failed xs (step s a) := by
  simp [untilFailed, h]

theorem untilFailed_append {s : σ} (hs : failed s = false) (xs ys : List α) :
    untilFailed step failed (xs ++ ys) s =
      if failed (untilFailed step failed xs s) then untilFailed step failed xs s
      else untilFailed step failed ys (untilFailed step failed xs s) := by
  induction xs generalizing s with
  | nil => simp [untilFailed, hs]
  | cons a xs ih =>
      rw [List.cons_append]
      cases ha : failed (step s a) with
      | true => simp only [untilFailed_cons_of_failed ha, ha, if_true]
      | false => rw [untilFailed_cons ha, untilFailed_cons ha, ih ha]

theorem untilFailed_map (f : β → α) (xs : List β) (s : σ) :
    untilFailed step failed (xs.map f) s = untilFailed (fun s b => step s (f b)) failed xs s := by
  induction xs generalizing s with
  | nil => rfl
  | cons b xs ih => simp only [List.map_cons, untilFailed, ih]

theorem untilFailed_view {step' : τ → α → τ} {failed' : τ → Bool} (view : σ → τ)
    (hstep : ∀ s a, view (step s a) = step' (view s) a)
    (hfailed : ∀ s, failed s = failed' (view s)) (xs : List α) (s : σ) :
    view (untilFailed step failed xs s) = untilFailed step' failed' xs (view s) := by
  induction xs generalizing s with
  | nil => rfl
  | cons a xs ih =>
      simp only [untilFailed, ← hstep, ← hfailed]
      split
      · rfl
      · exact ih (step s a)

end UntilFailed

/-- The calls that a node asks for. -/
def callsAt (linter : Linter) (m : Module) (node : Nat) : List (Nat × Checker) :=
  match m.kind? node with
  | some kind => (linter.interested kind.tag).map fun c => (node, c)
  | none => []

def agenda (linter : Linter) (m : Module) : List (Nat × Checker) :=
  m.preorder.flatMap (linter.callsAt m)

theorem mem_interested {linter : Linter} {tag : NodeTag} {c : Checker} :
    c ∈ linter.interested tag ↔ c ∈ linter.checkers ∧ tag ∈ c.hooks := by
  simp only [interested, List.mem_flatMap, List.mem_map, List.mem_filter, beq_iff_eq]
  constructor
  · rintro ⟨d, hd, _, ⟨htag, rfl⟩, rfl⟩
    exact ⟨hd, htag⟩
  · rintro ⟨hc, htag⟩
    exact ⟨c, hc, tag, ⟨htag, rfl⟩, rfl⟩

theorem mem_callsAt {linter : Linter} {m : Module} {id : Nat} {x : Nat × Checker} :
    x ∈ linter.callsAt m id ↔
      x.1 = id ∧ x.2 ∈ linter.checkers ∧ ∃ kind, m.kind? id = some kind ∧ kind.tag ∈ x.2.hooks := by
  unfold callsAt
  cases m.kind? id with
  | none => simp
  | some kind =>
      rw [List.mem_map]
      constructor
      · rintro ⟨c, hc, rfl⟩
        obtain ⟨hmem, htag⟩ := mem_interested.mp hc
        exact ⟨rfl, hmem, kind, rfl, htag⟩
      · rintro ⟨rfl, hmem, _, ⟨⟩, htag⟩
        exact ⟨x.2, mem_interested.mpr ⟨hmem, htag⟩, rfl⟩

section Walk

variable {σ : Type} (linter : Linter) (m : Module) (call : Nat → σ → Checker → σ)
  (failed : σ → Bool)

theorem visitNode_eq_untilFailed (node : Nat) (s : σ) :
    linter.visitNode m call failed node s =
      untilFailed (fun s c => call c.1 s c.2) failed (linter.callsAt m node) s := by
  unfold visitNode callsAt
  cases m.kind? node with
  | none => rfl
  | some kind => simp only [untilFailed_map]

theorem walkWithin_eq_untilFailed {s : σ} (hs : failed s = false) (bound : Nat)
    (stack : List Nat) :
    linter.walkWithin m call failed bound stack s =
      untilFailed (fun s c => call c.1 s c.2) failed
        ((m.preorderWithin bound stack).flatMap (linter.callsAt m)) s := by
  induction bound generalizing stack s with
  | zero => rfl
  | succ bound ih =>
      cases stack with
      | nil => rfl
      | cons node stack =>
          rw [walkWithin, Module.preorderWithin, List.flatMap_cons, untilFailed_append hs,
            visitNode_eq_untilFailed]
          split
          · rfl
          · next hnode => exact ih (by simpa using hnode) _

theorem walk_eq_untilFailed {s : σ} (hs : failed s = false) :
    linter.walk m call failed s =
      untilFailed (fun s c => call c.1 s c.2) failed (linter.agenda m) s :=
  walkWithin_eq_untilFailed linter m call failed hs _ _

end Walk

/-! ## Walks with a log -/

/-- A call of a checker, and how far the visit of the file had come before it. -/
structure CallRecord where
  node : Nat
  checker : Checker
  before : Progress

/-- What the visit of a call left behind. -/
def CallRecord.visit (file : SourceFile) (m : Module) (r : CallRecord) : Visit :=
  r.checker.enter ⟨file, m, scan m.source, r.node, r.before.sink.attempted⟩ r.before.library

structure Log where
  calls : List CallRecord
  progress : Progress

def logCall (file : SourceFile) (m : Module) (node : Nat) (log : Log) (c : Checker) : Log :=
  ⟨log.calls ++ [⟨node, c, log.progress⟩], call file m (scan m.source) node log.progress c⟩

theorem sink_call (file : SourceFile) (m : Module) (lines : Scan) (node : Nat) (p : Progress)
    (c : Checker) :
    (call file m lines node p c).sink = p.sink.extend
      ((c.enter ⟨file, m, lines, node, p.sink.attempted⟩ p.library).emissions.filterMap
        p.sink.noted?)
      ((c.enter ⟨file, m, lines, node, p.sink.attempted⟩ p.library).emissions.filterMap
        p.sink.reported?) :=
  Sink.recordAll_eq ..

/-- The walk of a check with a log of its calls. -/
def logCheck (linter : Linter) (file : SourceFile) (m : Module) (lib : Library) : Log :=
  linter.walk m (logCall file m) (·.progress.error.isSome)
    ⟨[], linter.start file (scan m.source) lib⟩

theorem logCheck_eq_untilFailed (linter : Linter) (file : SourceFile) (m : Module)
    (lib : Library) :
    linter.logCheck file m lib =
      untilFailed (fun log c => logCall file m c.1 log c.2)
        (fun log => log.progress.error.isSome) (linter.agenda m)
        ⟨[], linter.start file (scan m.source) lib⟩ :=
  walk_eq_untilFailed linter m _ _ rfl

theorem check_eq_untilFailed (linter : Linter) (file : SourceFile) (m : Module) (lib : Library) :
    linter.check file m lib =
      (untilFailed (fun p c => call file m (scan m.source) c.1 p c.2)
        (fun p => p.error.isSome) (linter.agenda m)
        (linter.start file (scan m.source) lib)).report :=
  congrArg Progress.report (walk_eq_untilFailed linter m _ _ rfl)

/-- The log adds nothing to the check but itself. -/
theorem report_logCheck (linter : Linter) (file : SourceFile) (m : Module) (lib : Library) :
    (linter.logCheck file m lib).progress.report = linter.check file m lib := by
  rw [logCheck_eq_untilFailed, check_eq_untilFailed]
  apply congrArg Progress.report
  apply untilFailed_view Log.progress
  · intro log c
    rfl
  · intro log
    rfl

/-- Calls made one after the other from `p` to `q`: each finds what the calls before it left. -/
def Linked (file : SourceFile) (m : Module) : (p : Progress) → List CallRecord →
    (q : Progress) → Prop
  | p, [], q => p = q
  | p, r :: rest, q =>
    r.before = p ∧ Linked file m (call file m (scan m.source) r.node p r.checker) rest q

section Linked

variable {file : SourceFile} {m : Module} {p q : Progress} {calls : List CallRecord}

theorem Linked.sink_eq (h : Linked file m p calls q) :
    q.sink = p.sink.extend
      (calls.flatMap fun r => (r.visit file m).emissions.filterMap p.sink.noted?)
      (calls.flatMap fun r => (r.visit file m).emissions.filterMap p.sink.reported?) := by
  induction calls generalizing p with
  | nil =>
      obtain rfl : p = q := h
      simp [Sink.extend]
  | cons r rest ih =>
      obtain ⟨rfl, hrest⟩ := h
      rw [ih hrest, sink_call, Sink.noted?_extend, Sink.reported?_extend, Sink.extend_extend,
        List.flatMap_cons, List.flatMap_cons]
      rfl

theorem Linked.error_eq (h : Linked file m p calls q) :
    q.error = (calls.getLast?.map fun r => (r.visit file m).error).getD p.error := by
  induction calls generalizing p with
  | nil =>
      obtain rfl : p = q := h
      rfl
  | cons r rest ih =>
      obtain ⟨rfl, hrest⟩ := h
      rw [ih hrest]
      cases rest with
      | nil => rfl
      | cons next rest => simp [List.getLast?_cons]

end Linked

/-- The calls made are those that are due, in the same order, up to the first one that fails. -/
structure CutAtFailure (file : SourceFile) (m : Module) (due : List (Nat × Checker))
    (calls : List CallRecord) : Prop where
  order : calls.map (fun r => (r.node, r.checker)) <+: due
  /-- Only the last call can fail. -/
  clean : ∀ r ∈ calls.dropLast, (r.visit file m).error = none
  /-- If a call that is due is not made, the last call failed. -/
  stopped : calls.length < due.length →
    ∃ r, calls.getLast? = some r ∧ (r.visit file m).error.isSome

theorem CutAtFailure.cons {file : SourceFile} {m : Module} {due : List (Nat × Checker)}
    {calls : List CallRecord} (h : CutAtFailure file m due calls) (r : CallRecord)
    (hr : (r.visit file m).error = none) :
    CutAtFailure file m ((r.node, r.checker) :: due) (r :: calls) where
  order := by simpa using h.order
  clean := by
    intro x hx
    cases calls with
    | nil => simp at hx
    | cons next rest =>
        rw [List.dropLast_cons_cons, List.mem_cons] at hx
        rcases hx with rfl | hx
        · exact hr
        · exact h.clean x hx
  stopped := by
    intro hlength
    obtain ⟨last, hlast, herror⟩ := h.stopped (by simpa using hlength)
    refine ⟨last, ?_, herror⟩
    rw [List.getLast?_cons, hlast]
    rfl

theorem exists_calls_of_untilFailed (file : SourceFile) (m : Module) (due : List (Nat × Checker))
    (log : Log) :
    let out := untilFailed (fun log c => logCall file m c.1 log c.2)
      (fun log => log.progress.error.isSome) due log
    ∃ made, out.calls = log.calls ++ made ∧ Linked file m log.progress made out.progress ∧
      CutAtFailure file m due made := by
  -- The log is general, so that the calls made later start from where the first one leaves it.
  induction due generalizing log with
  | nil => exact ⟨[], by simp [untilFailed], rfl, by simp, by simp, by simp⟩
  | cons c due ih =>
      intro out
      let r : CallRecord := ⟨c.1, c.2, log.progress⟩
      cases hr : (r.visit file m).error with
      | some e =>
          have hout : out = logCall file m c.1 log c.2 :=
            untilFailed_cons_of_failed (congrArg Option.isSome hr) due
          rw [hout]
          exact ⟨[r], rfl, ⟨rfl, rfl⟩, by simp [r], by simp, fun _ => ⟨r, rfl, by simp [hr]⟩⟩
      | none =>
          obtain ⟨made, hcalls, hlinked, hcut⟩ := ih (logCall file m c.1 log c.2)
          have hout : out = _ := untilFailed_cons (congrArg Option.isSome hr) due
          rw [← hout] at hcalls hlinked
          refine ⟨r :: made, ?_, ⟨rfl, hlinked⟩, hcut.cons r hr⟩
          rw [hcalls, logCall, List.append_assoc, List.singleton_append]

/-- A violation that a check reports was emitted on a visit that was due. -/
theorem exists_emission_of_mem_check {linter : Linter} {file : SourceFile} {m : Module}
    {lib : Library} {v : Violation} (h : v ∈ (linter.check file m lib).violations) :
    ∃ (c : Checker) (site : Site) (lib' : Library), (site.node, c) ∈ linter.agenda m ∧
      site.file = file ∧ site.home = m ∧ site.lines = scan m.source ∧
      ∃ e ∈ (c.enter site lib').emissions,
        (linter.start file (scan m.source) lib).sink.reported? e = some v := by
  obtain ⟨made, hcalls, hlinked, hcut⟩ := exists_calls_of_untilFailed file m (linter.agenda m)
    ⟨[], linter.start file (scan m.source) lib⟩
  rw [← logCheck_eq_untilFailed] at hlinked
  rw [← report_logCheck, Progress.report, hlinked.sink_eq] at h
  obtain ⟨r, hr, hv⟩ := List.mem_flatMap.mp h
  obtain ⟨e, he, hreported⟩ := List.mem_filterMap.mp hv
  exact ⟨r.checker, ⟨file, m, scan m.source, r.node, r.before.sink.attempted⟩, r.before.library,
    hcut.order.subset (List.mem_map.mpr ⟨r, hr, rfl⟩), rfl, rfl, rfl, e, he, hreported⟩

/-! ## The schedule -/

/-- The calls for the nodes in the order of their positions: for each node the checkers that list
its kind, in the order of their registration. -/
def schedule (linter : Linter) (m : Module) : List (Nat × Checker) :=
  (List.range m.nodes.size).flatMap fun id =>
    (linter.checkers.filter fun c => (m.kind? id).any fun kind => c.hooks.contains kind.tag).map
      fun c => (id, c)

theorem interested_eq_filter {linter : Linter} (hooks : ∀ c ∈ linter.checkers, c.hooks.Nodup)
    (tag : NodeTag) :
    linter.interested tag = linter.checkers.filter (·.hooks.contains tag) := by
  unfold interested
  generalize linter.checkers = checkers at hooks ⊢
  -- A checker stands in the list as often as it asks for the kind, which is once or never.
  induction checkers with
  | nil => rfl
  | cons c rest ih =>
      rw [List.forall_mem_cons] at hooks
      rw [List.flatMap_cons, ih hooks.2, List.filter_beq, hooks.1.count, List.filter_cons]
      by_cases htag : tag ∈ c.hooks <;> simp [htag]

theorem callsAt_eq {linter : Linter} (hooks : ∀ c ∈ linter.checkers, c.hooks.Nodup) (m : Module)
    (id : Nat) :
    linter.callsAt m id =
      (linter.checkers.filter fun c => (m.kind? id).any fun kind => c.hooks.contains kind.tag).map
        fun c => (id, c) := by
  unfold callsAt
  cases m.kind? id with
  | none => simp
  | some kind => simp [interested_eq_filter hooks]

theorem agenda_ofTree {linter : Linter} (hooks : ∀ c ∈ linter.checkers, c.hooks.Nodup)
    (name : String) (path : Path) (source : Text) (tree : Tree) :
    linter.agenda (.ofTree name path source tree) =
      linter.schedule (.ofTree name path source tree) := by
  unfold agenda schedule
  rw [Module.preorder_ofTree]
  congr 1
  funext id
  exact callsAt_eq hooks _ id

/-- A check makes the calls of the schedule and reports what they leave. -/
structure FollowsSchedule (linter : Linter) (file : SourceFile) (m : Module) (lib : Library) :
    Prop where
  /-- The walk with a log is the walk of the check. -/
  report : (linter.logCheck file m lib).progress.report = linter.check file m lib
  linked : Linked file m (linter.start file (scan m.source) lib) (linter.logCheck file m lib).calls
    (linter.logCheck file m lib).progress
  cut : CutAtFailure file m (linter.schedule m) (linter.logCheck file m lib).calls
  /-- The check ends in the error of its last call. -/
  error : (linter.check file m lib).error =
    (linter.logCheck file m lib).calls.getLast?.bind fun r => (r.visit file m).error
  /-- The violations are those of the calls, one call after the other. -/
  violations : (linter.check file m lib).violations =
    (linter.logCheck file m lib).calls.flatMap fun r =>
      (r.visit file m).emissions.filterMap (linter.start file (scan m.source) lib).sink.reported?

/-- If no checker lists a kind of node twice, checking the module of a syntax tree calls the
checkers for the nodes 0, 1, 2, … in turn, each call once, up to the first call that fails. -/
theorem check_followsSchedule (linter : Linter) (hooks : ∀ c ∈ linter.checkers, c.hooks.Nodup)
    (file : SourceFile) (name : String) (path : Path) (source : Text) (tree : Tree)
    (lib : Library) : linter.FollowsSchedule file (.ofTree name path source tree) lib := by
  generalize hm : Module.ofTree name path source tree = m
  have hagenda : linter.agenda m = linter.schedule m := by
    rw [← hm, agenda_ofTree hooks]
  have hreport := report_logCheck linter file m lib
  have hlog := logCheck_eq_untilFailed linter file m lib
  obtain ⟨made, hcalls, hlinked, hcut⟩ := exists_calls_of_untilFailed file m (linter.agenda m)
    ⟨[], linter.start file (scan m.source) lib⟩
  rw [← hlog, List.nil_append] at hcalls
  rw [← hlog, ← hcalls] at hlinked
  rw [hagenda, ← hcalls] at hcut
  refine ⟨hreport, hlinked, hcut, ?_, ?_⟩
  · rw [← hreport, Progress.report, hlinked.error_eq]
    cases (linter.logCheck file m lib).calls.getLast? <;> rfl
  · rw [← hreport, Progress.report, hlinked.sink_eq]
    rfl

/-- A checker that gives up at a function and passes over classes. -/
def tripwire : Checker where
  name := "tripwire"
  description := ""
  messages := []
  hooks := [.classDef, .functionDef]
  enter site lib :=
    ⟨[], lib, (site.home.function? site.node).map fun f => .structural f.name⟩

/-- A class with two methods, of which the first ends the check. -/
def tripwireTree : Tree :=
  let method (name : String) (line : Nat) : Tree :=
    .node .functionDefinition .plain ⟨line, 4⟩ [] [.node .identifier .name ⟨line, 8⟩ name.toList []]
  .node .file .plain ⟨1, 0⟩ []
    [.node .classDefinition .plain ⟨1, 0⟩ []
      [.node .block .body ⟨2, 4⟩ [] [method "first" 2, method "second" 3]]]

theorem check_followsSchedule_tripwire :
    let linter : Linter := ⟨[tripwire, tripwire], .initial, .silent⟩
    let file : SourceFile := ⟨.ofString "m.py", [], "m", .ofString "m.py"⟩
    let m := Module.ofTree "m" (.ofString "m.py") [] tripwireTree
    (∀ c ∈ linter.checkers, c.hooks.Nodup) ∧ linter.FollowsSchedule file m (.ofModules []) ∧
      (linter.schedule m).map Prod.fst = [1, 1, 2, 2, 3, 3] ∧
      (linter.logCheck file m (.ofModules [])).calls.map (·.node) = [1, 1, 2] ∧
      (linter.check file m (.ofModules [])).error = some (.structural "first") := by
  have hooks : ∀ c ∈ [tripwire, tripwire], c.hooks.Nodup := by decide
  exact ⟨hooks, check_followsSchedule _ hooks _ _ _ _ _ _, by decide, by decide, by decide⟩

end Linter

end CodingStandard
