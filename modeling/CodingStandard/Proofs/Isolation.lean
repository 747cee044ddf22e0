import CodingStandard.Proofs.Builtin
import CodingStandard.Proofs.Calls
import CodingStandard.Proofs.Registration

namespace CodingStandard

/-!
# Checkers do not disturb each other

All checkers of a run share one sink, one catalog, one policy and one library. Still, what a
checker of the library reports does not depend on the checkers beside it. The proof runs a list
of checkers and one of them alone side by side: the two runs make the same calls of that checker,
and the calls of the others leave nothing behind that it would look at.
-/

/-- The call that registers the messages of a checker. -/
def Checker.registration (c : Checker) : IndexedCatalog.Registration := ⟨c.name, c.messages⟩

namespace Linter

/-- The entries of several checkers, after those of the program itself. -/
def entriesFor (checkers : List Checker) : List CatalogEntry :=
  Catalog.initial.registered ++ checkers.flatMap fun c => Catalog.entriesOf c.name c.messages

theorem mem_entriesFor {checkers : List Checker} {c : Checker} (hc : c ∈ checkers)
    {msg : MessageDef} (hmsg : msg ∈ c.messages) : ⟨msg, c.name⟩ ∈ entriesFor checkers :=
  List.mem_append_right _
    (List.mem_flatMap.mpr ⟨c, hc, List.mem_map.mpr ⟨msg, hmsg, rfl⟩⟩)

open IndexedCatalog (Sound)

/-- Checkers register their messages in a catalog with indexes one after the other. The first call
that fails gives the error. -/
theorem registerAll_toCatalog {catalog : IndexedCatalog} (h : catalog.Sound)
    (checkers : List Checker) :
    registerAll catalog.toCatalog checkers =
      match (catalog.outcomes (checkers.map Checker.registration)).findSome? id with
      | none => .ok (catalog.after (checkers.map Checker.registration)).toCatalog
      | some error => .error error := by
  induction checkers generalizing catalog with
  | nil => rfl
  | cons c rest ih =>
      have hrest := ih (h.register c.name c.messages).1
      rw [registerAll, h.register_toCatalog]
      simp only [List.map_cons, IndexedCatalog.outcomes, IndexedCatalog.after, List.foldl_cons,
        List.findSome?_cons, Checker.registration] at hrest ⊢
      cases (catalog.register c.name c.messages).2 with
      | none => exact hrest
      | some error => rfl

theorem catalogOf_of_unambiguous {checkers : List Checker}
    (h : Catalog.Unambiguous ⟨entriesFor checkers⟩) :
    catalogOf checkers = .ok ⟨entriesFor checkers⟩ := by
  let calls := checkers.map Checker.registration
  have hentries : IndexedCatalog.initial.registered.toList ++
      calls.flatMap IndexedCatalog.Registration.entries = entriesFor checkers := by
    rw [List.flatMap_map]
    rfl
  have hsucceed : IndexedCatalog.initial.AllSucceed calls :=
    Sound.initial.allSucceed_iff.mpr (hentries ▸ h.distinct)
  have hnone : (IndexedCatalog.initial.outcomes (checkers.map Checker.registration)).findSome? id =
      none := List.findSome?_eq_none_iff.mpr hsucceed
  calc catalogOf checkers
      = registerAll IndexedCatalog.initial.toCatalog checkers := rfl
    _ = .ok (IndexedCatalog.initial.after calls).toCatalog := by
        rw [registerAll_toCatalog .initial, hnone]
    _ = .ok ⟨entriesFor checkers⟩ := by
        rw [IndexedCatalog.toCatalog, Sound.initial.registered_after hsucceed, hentries]

theorem build_of_unambiguous {checkers : List Checker}
    (h : Catalog.Unambiguous ⟨entriesFor checkers⟩) (policy : Catalog → Policy) :
    build checkers policy =
      .ok ⟨checkers, ⟨entriesFor checkers⟩, policy ⟨entriesFor checkers⟩⟩ := by
  rw [build, catalogOf_of_unambiguous h]
  rfl

theorem unambiguous_entriesFor {checkers : List Checker} (hbuiltin : ∀ c ∈ checkers, Builtin c)
    (hnames : (checkers.map Checker.name).Nodup) :
    Catalog.Unambiguous ⟨entriesFor checkers⟩ := by
  apply Builtin.unambiguous_registry.of_subset
  · intro e he
    rcases List.mem_append.mp he with he | he
    · exact List.mem_append_left _ he
    · obtain ⟨c, hc, he⟩ := List.mem_flatMap.mp he
      exact (hbuiltin c hc).mem_registry he
  · have hchecker : ∀ c : Checker, ∀ e ∈ Catalog.entriesOf c.name c.messages,
        e.checker = c.name := by
      intro c e he
      obtain ⟨msg, _, rfl⟩ := List.mem_map.mp he
      rfl
    refine List.nodup_append.mpr ⟨by decide, List.nodup_flatMap.mpr ⟨?_, ?_⟩, ?_⟩
    · intro c hc
      exact (hbuiltin c hc).messages_nodup.map fun _ _ heq => congrArg CatalogEntry.message heq
    · refine (List.pairwise_map.mp hnames).imp ?_
      intro c d hne e he he'
      exact hne ((hchecker c e he).symm.trans (hchecker d e he'))
    · intro e he e' he' heq
      obtain ⟨c, hc, he'⟩ := List.mem_flatMap.mp he'
      obtain rfl : e = ⟨Catalog.abortMessage, Catalog.host⟩ := List.mem_singleton.mp he
      exact (hbuiltin c hc).name_ne_host (heq ▸ hchecker c e' he').symm

def configured (checkers : List Checker) (filter : MessageFilter)
    (overrides : List (String × Severity)) : Linter :=
  ⟨checkers, ⟨entriesFor checkers⟩, .ofFilter ⟨entriesFor checkers⟩ filter overrides⟩

theorem build_eq_configured {checkers : List Checker}
    (h : Catalog.Unambiguous ⟨entriesFor checkers⟩) (filter : MessageFilter)
    (overrides : List (String × Severity)) :
    build checkers (fun catalog => .ofFilter catalog filter overrides) =
      .ok (configured checkers filter overrides) :=
  build_of_unambiguous h _

end Linter

namespace Sink

variable {sink : Sink} {entry : CatalogEntry} {e : Emission} {v : Violation}

theorem get?_of_mem (h : sink.catalog.Unambiguous) (hentry : entry ∈ sink.catalog.registered)
    (he : e.message = entry.message.code) : sink.catalog.get? e.message = some entry :=
  h.get?_eq_some_iff.mpr ⟨hentry, .inl he.symm⟩

theorem noted?_of_mem (h : sink.catalog.Unambiguous) (hentry : entry ∈ sink.catalog.registered)
    (he : e.message = entry.message.code) : sink.noted? e = some entry.message.code := by
  rw [noted?, get?_of_mem h hentry he, Option.map_some]

theorem reported?_of_mem (h : sink.catalog.Unambiguous) (hentry : entry ∈ sink.catalog.registered)
    (he : e.message = entry.message.code) :
    sink.reported? e =
      if sink.reports entry e.line then some (sink.violationOf entry e) else none := by
  rw [reported?, get?_of_mem h hentry he, Option.bind_some]

theorem reported?_congr {other : Sink} (h : sink.catalog.Unambiguous)
    (hother : other.catalog.Unambiguous) (hentry : entry ∈ sink.catalog.registered)
    (hentry' : entry ∈ other.catalog.registered) (hfile : sink.file = other.file)
    (hsuppressions : sink.suppressions = other.suppressions)
    (henabled : sink.policy.isEnabled entry.message.code =
      other.policy.isEnabled entry.message.code)
    (hseverity : sink.policy.severity entry.message.code =
      other.policy.severity entry.message.code)
    (he : e.message = entry.message.code) : sink.reported? e = other.reported? e := by
  have hreports : sink.reports entry e.line = other.reports entry e.line := by
    rw [reports, reports, hfile, hsuppressions, henabled]
  have hviolation : sink.violationOf entry e = other.violationOf entry e := by
    rw [violationOf, violationOf, hfile, hseverity]
  rw [reported?_of_mem h hentry he, reported?_of_mem hother hentry' he, hreports, hviolation]

theorem checker_of_reported? (h : sink.catalog.Unambiguous)
    (hentry : entry ∈ sink.catalog.registered) (he : e.message = entry.message.code)
    (hv : sink.reported? e = some v) : v.checker = entry.checker := by
  rw [reported?_of_mem h hentry he, Option.ite_none_right_eq_some] at hv
  rw [← Option.some.inj hv.2]
  rfl

end Sink

namespace Linter

/-! ## A checker among others and alone -/

/-- The messages of a checker mean the same to two sinks, and those of the checkers beside it
mean something else to the first one. -/
structure Twins (checkers : List Checker) (c : Checker) (all alone : Sink) : Prop where
  reported : ∀ e : Emission, e.message ∈ c.messages.map MessageDef.code →
    all.reported? e = alone.reported? e
  noted : ∀ e : Emission, e.message ∈ c.messages.map MessageDef.code →
    all.noted? e = alone.noted? e
  own : ∀ (e : Emission) v, e.message ∈ c.messages.map MessageDef.code →
    all.reported? e = some v → v.checker = c.name
  foreign : ∀ d ∈ checkers, d.name ≠ c.name →
    ∀ e : Emission, e.message ∈ d.messages.map MessageDef.code →
      (∀ v, all.reported? e = some v → v.checker ≠ c.name) ∧
      ∀ code, all.noted? e = some code → code ∉ c.messages.map MessageDef.code

theorem twins_start {checkers : List Checker} (hbuiltin : ∀ c ∈ checkers, Builtin c)
    (hnames : (checkers.map Checker.name).Nodup) {c : Checker} (hc : c ∈ checkers)
    (filter : MessageFilter) (overrides : List (String × Severity)) (file : SourceFile)
    (lines : Scan) (lib : Library) :
    Twins checkers c ((configured checkers filter overrides).start file lines lib).sink
      ((configured [c] filter overrides).start file lines lib).sink := by
  have hall : Catalog.Unambiguous ⟨entriesFor checkers⟩ := unambiguous_entriesFor hbuiltin hnames
  have halone : Catalog.Unambiguous ⟨entriesFor [c]⟩ :=
    unambiguous_entriesFor (by simpa using hbuiltin c hc) (by simp)
  refine ⟨?_, ?_, ?_, ?_⟩
  · intro e he
    obtain ⟨msg, hmsg, hcode⟩ := List.mem_map.mp he
    have hin := mem_entriesFor hc hmsg
    have hin' := mem_entriesFor (List.mem_singleton_self c) hmsg
    exact Sink.reported?_congr hall halone hin hin' rfl rfl
      (Policy.isEnabled_eq_of_mem hall halone hin hin' filter overrides)
      ((Policy.severity_ofFilter hall.codes_nodup hin filter overrides).trans
        (Policy.severity_ofFilter halone.codes_nodup hin' filter overrides).symm) hcode.symm
  · intro e he
    obtain ⟨msg, hmsg, hcode⟩ := List.mem_map.mp he
    rw [Sink.noted?_of_mem hall (mem_entriesFor hc hmsg) hcode.symm,
      Sink.noted?_of_mem halone (mem_entriesFor (List.mem_singleton_self c) hmsg) hcode.symm]
  · intro e v he hv
    obtain ⟨msg, hmsg, hcode⟩ := List.mem_map.mp he
    exact Sink.checker_of_reported? hall (mem_entriesFor hc hmsg) hcode.symm hv
  · intro d hd hne e he
    obtain ⟨msg, hmsg, hcode⟩ := List.mem_map.mp he
    have hin := mem_entriesFor hd hmsg
    refine ⟨?_, ?_⟩
    · intro v hv
      rw [Sink.checker_of_reported? hall hin hcode.symm hv]
      exact hne
    · intro code hnoted hown
      rw [Sink.noted?_of_mem hall hin hcode.symm, Option.some.injEq] at hnoted
      obtain ⟨other, hother, hsame⟩ := List.mem_map.mp hown
      have hentry := hall.eq_of_name hin (mem_entriesFor hc hother) (.inl hnoted) (.inl hsame)
      exact hne (congrArg CatalogEntry.checker hentry)

/-- How far a run of several checkers and a run of one of them alone have come together. -/
structure Alongside (checkers : List Checker) (c : Checker) (p q : Progress) : Prop where
  twins : Twins checkers c p.sink q.sink
  violations : p.sink.violations.filter (·.checker == c.name) = q.sink.violations
  attempted : ∀ msg ∈ c.messages,
    msg.code ∈ p.sink.attempted ↔ msg.code ∈ q.sink.attempted
  /-- Only the checker of docstrings asks for other modules. -/
  library : c.name = "docstring" → p.library = q.library

section Steps

variable {checkers : List Checker} {c : Checker} {p q : Progress} (file : SourceFile)
  (m : Module) (lines : Scan) (node : Nat)

theorem Alongside.foreign (h : Alongside checkers c p q) {d : Checker} (hd : d ∈ checkers)
    (hne : d.name ≠ c.name) (hdiscreet : d.Discreet) (hoffline : c.name = "docstring" → d.Offline) :
    Alongside checkers c (call file m lines node p d) q := by
  have hemits := hdiscreet.emits_own ⟨file, m, lines, node, p.sink.attempted⟩ p.library
  refine ⟨?_, ?_, ?_, ?_⟩
  · rw [sink_call]
    exact ⟨h.twins.reported, h.twins.noted, h.twins.own, h.twins.foreign⟩
  · rw [sink_call, Sink.violations_extend, List.filter_append, h.violations,
      List.append_right_eq_self, List.filter_eq_nil_iff]
    intro v hv
    obtain ⟨e, he, hreported⟩ := List.mem_filterMap.mp hv
    simpa using (h.twins.foreign d hd hne e (hemits e he)).1 v hreported
  · intro msg hmsg
    rw [sink_call, Sink.attempted_extend, List.mem_append, ← h.attempted msg hmsg]
    refine or_iff_left ?_
    intro hnoted
    obtain ⟨e, he, hcode⟩ := List.mem_filterMap.mp hnoted
    exact (h.twins.foreign d hd hne e (hemits e he)).2 msg.code hcode
      (List.mem_map.mpr ⟨msg, hmsg, rfl⟩)
  · intro hdocstring
    obtain ⟨found, hfound⟩ := hoffline hdocstring
    rw [← h.library hdocstring, call, hfound]
    rfl

theorem Alongside.enter_eq (h : Alongside checkers c p q) (hdiscreet : c.Discreet)
    (hoffline : c.name ≠ "docstring" → c.Offline) :
    let visit := c.enter ⟨file, m, lines, node, p.sink.attempted⟩ p.library
    let visit' := c.enter ⟨file, m, lines, node, q.sink.attempted⟩ q.library
    visit.emissions = visit'.emissions ∧ visit.error = visit'.error ∧
      (c.name = "docstring" → visit.library = visit'.library) := by
  have hsite := hdiscreet.asks_own ⟨file, m, lines, node, q.sink.attempted⟩ p.sink.attempted
    p.library h.attempted
  by_cases hdocstring : c.name = "docstring"
  · rw [hsite, h.library hdocstring]
    exact ⟨rfl, rfl, fun _ => rfl⟩
  · obtain ⟨found, hfound⟩ := hoffline hdocstring
    rw [hsite, hfound, hfound]
    exact ⟨rfl, rfl, fun hname => absurd hname hdocstring⟩

theorem Alongside.own (h : Alongside checkers c p q) (hdiscreet : c.Discreet)
    (hoffline : c.name ≠ "docstring" → c.Offline) :
    Alongside checkers c (call file m lines node p c) (call file m lines node q c) ∧
      (call file m lines node p c).error = (call file m lines node q c).error := by
  have hemits := hdiscreet.emits_own ⟨file, m, lines, node, q.sink.attempted⟩ q.library
  obtain ⟨hemissions, herror, hlibrary⟩ := h.enter_eq file m lines node hdiscreet hoffline
  refine ⟨⟨?_, ?_, ?_, hlibrary⟩, herror⟩
  · rw [sink_call, sink_call]
    exact ⟨h.twins.reported, h.twins.noted, h.twins.own, h.twins.foreign⟩
  · have hreported : ∀ e ∈ (c.enter ⟨file, m, lines, node, q.sink.attempted⟩ q.library).emissions,
        p.sink.reported? e = q.sink.reported? e := fun e he => h.twins.reported e (hemits e he)
    rw [sink_call, sink_call, Sink.violations_extend, Sink.violations_extend, List.filter_append,
      h.violations, hemissions, List.filterMap_congr hreported, List.append_cancel_left_eq,
      List.filter_eq_self]
    intro v hv
    obtain ⟨e, he, hv⟩ := List.mem_filterMap.mp hv
    simpa using h.twins.own e v (hemits e he) ((hreported e he).trans hv)
  · intro msg hmsg
    have hnoted : ∀ e ∈ (c.enter ⟨file, m, lines, node, q.sink.attempted⟩ q.library).emissions,
        p.sink.noted? e = q.sink.noted? e := fun e he => h.twins.noted e (hemits e he)
    rw [sink_call, sink_call, Sink.attempted_extend, Sink.attempted_extend, List.mem_append,
      List.mem_append, h.attempted msg hmsg, hemissions, List.filterMap_congr hnoted]

end Steps

/-! ## Whole runs -/

section Runs

variable (file : SourceFile) (m : Module) (lines : Scan)

/-- Makes calls up to the first one that fails. -/
def callAll (due : List (Nat × Checker)) (p : Progress) : Progress :=
  untilFailed (fun p c => call file m lines c.1 p c.2) (fun p => p.error.isSome) due p

variable {file m lines} in
theorem callAll_cons_of_failed {p : Progress} {x : Nat × Checker}
    (h : (call file m lines x.1 p x.2).error.isSome = true) (due : List (Nat × Checker)) :
    callAll file m lines (x :: due) p = call file m lines x.1 p x.2 :=
  untilFailed_cons_of_failed h due

variable {file m lines} in
theorem callAll_cons {p : Progress} {x : Nat × Checker}
    (h : (call file m lines x.1 p x.2).error.isSome = false) (due : List (Nat × Checker)) :
    callAll file m lines (x :: due) p = callAll file m lines due (call file m lines x.1 p x.2) :=
  untilFailed_cons h due

theorem violations_callAll (due : List (Nat × Checker)) (p : Progress) :
    p.sink.violations <+: (callAll file m lines due p).sink.violations := by
  induction due generalizing p with
  | nil => exact List.prefix_rfl
  | cons x due ih =>
      have hcall : p.sink.violations <+: (call file m lines x.1 p x.2).sink.violations := by
        rw [sink_call]
        exact List.prefix_append ..
      cases hfailed : (call file m lines x.1 p x.2).error.isSome with
      | true => rwa [callAll_cons_of_failed hfailed]
      | false =>
          rw [callAll_cons hfailed]
          exact hcall.trans (ih _)

/-- The run of several checkers reports for one of them a part of what the run of that checker
alone reports, from the start on. Only the failure of another checker can cut it short. -/
theorem Alongside.run {checkers : List Checker} (hbuiltin : ∀ d ∈ checkers, Builtin d)
    (hnames : (checkers.map Checker.name).Nodup) {c : Checker} (hc : c ∈ checkers)
    {p q : Progress} (h : Alongside checkers c p q) (due : List (Nat × Checker))
    (hdue : ∀ x ∈ due, x.2 ∈ checkers) :
    let mine := (callAll file m lines due p).sink.violations.filter (·.checker == c.name)
    let alone := (callAll file m lines (due.filter (·.2.name == c.name)) q).sink.violations
    mine <+: alone ∧
      ((callAll file m lines due p).error = none ∨ c.name = "docstring" → mine = alone) := by
  -- The two runs stay alongside each other; the run alone skips the calls of the other checkers.
  induction due generalizing p q with
  | nil => exact ⟨h.violations ▸ List.prefix_rfl, fun _ => h.violations⟩
  | cons x due ih =>
      obtain ⟨node, d⟩ := x
      rw [List.forall_mem_cons] at hdue
      have hd := hdue.1
      by_cases hname : d.name = c.name
      · obtain rfl : d = c := List.inj_on_of_nodup_map hnames hd hc hname
        obtain ⟨hnext, herror⟩ := h.own file m lines node (hbuiltin d hd).discreet
          (hbuiltin d hd).offline
        rw [List.filter_cons_of_pos (by simp)]
        cases hfailed : (call file m lines node p d).error.isSome with
        | true =>
            rw [callAll_cons_of_failed hfailed, callAll_cons_of_failed (herror ▸ hfailed)]
            exact ⟨hnext.violations ▸ List.prefix_rfl, fun _ => hnext.violations⟩
        | false =>
            rw [callAll_cons hfailed, callAll_cons (herror ▸ hfailed)]
            exact ih hnext hdue.2
      · have hoffline : c.name = "docstring" → d.Offline := fun hdocstring =>
          (hbuiltin d hd).offline (hdocstring ▸ hname)
        -- A failing call of another checker leaves the run alone with calls still to make.
        have hnext := h.foreign file m lines node hd hname (hbuiltin d hd).discreet hoffline
        rw [List.filter_cons_of_neg (by simpa using hname)]
        cases hfailed : (call file m lines node p d).error.isSome with
        | true =>
            rw [callAll_cons_of_failed hfailed]
            refine ⟨hnext.violations ▸ violations_callAll file m lines _ q, ?_⟩
            rintro (hnone | hdocstring)
            · simp [hnone] at hfailed
            · obtain ⟨found, hfound⟩ := hoffline hdocstring
              simp [call, hfound, Visit.emitting] at hfailed
        | false =>
            rw [callAll_cons hfailed]
            exact ih hnext hdue.2

end Runs

theorem mem_checkers_of_mem_agenda {linter : Linter} {m : Module} {x : Nat × Checker}
    (hx : x ∈ linter.agenda m) : x.2 ∈ linter.checkers := by
  obtain ⟨id, -, hx⟩ := List.mem_flatMap.mp hx
  exact (mem_callsAt.mp hx).2.1

theorem filter_interested {linter alone : Linter} {c : Checker}
    (hnames : (linter.checkers.map Checker.name).Nodup) (hc : c ∈ linter.checkers)
    (halone : alone.checkers = [c]) (tag : NodeTag) :
    (linter.interested tag).filter (·.name == c.name) = alone.interested tag := by
  obtain ⟨front, back, hsplit⟩ := List.append_of_mem hc
  have hothers : ∀ d ∈ front ++ back, d.name ≠ c.name := by
    rw [hsplit, List.map_append, List.map_cons, List.nodup_middle, List.nodup_cons,
      ← List.map_append] at hnames
    intro d hd hname
    exact hnames.1 (List.mem_map.mpr ⟨d, hd, hname⟩)
  have hdropped : ∀ part : List Checker, (∀ d ∈ part, d.name ≠ c.name) →
      (part.flatMap fun d => (d.hooks.filter (· == tag)).map fun _ => d).filter
        (·.name == c.name) = [] := by
    intro part hpart
    apply List.filter_eq_nil_iff.mpr
    intro x hx
    obtain ⟨d, hd, hx⟩ := List.mem_flatMap.mp hx
    obtain ⟨_, _, rfl⟩ := List.mem_map.mp hx
    simpa using hpart d hd
  have hfront := hdropped front fun d hd => hothers d (List.mem_append_left _ hd)
  have hback := hdropped back fun d hd => hothers d (List.mem_append_right _ hd)
  have hkept : ((c.hooks.filter (· == tag)).map fun _ => c).filter (·.name == c.name) =
      (c.hooks.filter (· == tag)).map fun _ => c := by
    apply List.filter_eq_self.mpr
    intro x hx
    obtain ⟨_, _, rfl⟩ := List.mem_map.mp hx
    simp
  rw [interested, interested, hsplit, halone, List.flatMap_append, List.flatMap_cons,
    List.filter_append, List.filter_append, hfront, hback, hkept]
  simp

theorem filter_agenda {linter alone : Linter} {c : Checker}
    (hnames : (linter.checkers.map Checker.name).Nodup) (hc : c ∈ linter.checkers)
    (halone : alone.checkers = [c]) (m : Module) :
    (linter.agenda m).filter (·.2.name == c.name) = alone.agenda m := by
  have hnode : ∀ id, (linter.callsAt m id).filter (·.2.name == c.name) = alone.callsAt m id := by
    intro id
    unfold callsAt
    cases m.kind? id with
    | none => rfl
    | some kind =>
        simp only [← filter_interested hnames hc halone kind.tag, List.filter_map]
        rfl
  simp only [agenda, List.filter_flatMap, hnode]

/-- A violation of a check with built-in checkers is what the sink makes of a message that a
checker emits as its own, on a visit that was due. -/
theorem exists_violationOf_of_mem_check {linter : Linter}
    (hbuiltin : ∀ c ∈ linter.checkers, Builtin c)
    (hnames : (linter.checkers.map Checker.name).Nodup)
    (hcatalog : linter.catalog = ⟨entriesFor linter.checkers⟩) {file : SourceFile} {m : Module}
    {lib : Library} {v : Violation} (h : v ∈ (linter.check file m lib).violations) :
    ∃ (c : Checker) (site : Site) (lib' : Library) (msg : MessageDef) (e : Emission),
      c ∈ linter.checkers ∧ (site.node, c) ∈ linter.agenda m ∧
      site.home = m ∧ site.lines = scan m.source ∧
      msg ∈ c.messages ∧ e ∈ (c.enter site lib').emissions ∧ msg.code = e.message ∧
      v = (linter.start file (scan m.source) lib).sink.violationOf ⟨msg, c.name⟩ e := by
  have hunambiguous : linter.catalog.Unambiguous :=
    hcatalog ▸ unambiguous_entriesFor hbuiltin hnames
  obtain ⟨c, site, lib', hdue, -, hhome, hlines, e, he, hreported⟩ :=
    exists_emission_of_mem_check h
  have hc : c ∈ linter.checkers := mem_checkers_of_mem_agenda hdue
  obtain ⟨msg, hmsg, hcode⟩ :=
    List.mem_map.mp ((hbuiltin c hc).discreet.emits_own site lib' e he)
  have hentry : ⟨msg, c.name⟩ ∈ linter.catalog.registered := hcatalog ▸ mem_entriesFor hc hmsg
  rw [Sink.reported?_of_mem hunambiguous hentry hcode.symm, Option.ite_none_right_eq_some]
    at hreported
  exact ⟨c, site, lib', msg, e, hc, hdue, hhome, hlines, hmsg, he, hcode,
    (Option.some.inj hreported.2).symm⟩

/-- What a built-in checker reports beside others is what it reports alone, up to the point where
another checker ends the run. The checker of docstrings reports the same in any case, for no
other checker fails. -/
theorem check_isolated (checkers : List Checker) (hbuiltin : ∀ c ∈ checkers, Builtin c)
    (hnames : (checkers.map Checker.name).Nodup) (filter : MessageFilter)
    (overrides : List (String × Severity)) (file : SourceFile) (m : Module) (lib : Library)
    (c : Checker) (hc : c ∈ checkers) :
    ∃ linter alone,
      build checkers (fun catalog => .ofFilter catalog filter overrides) = .ok linter ∧
      build [c] (fun catalog => .ofFilter catalog filter overrides) = .ok alone ∧
      let mine := (linter.check file m lib).violations.filter (·.checker == c.name)
      mine <+: (alone.check file m lib).violations ∧
      ((linter.check file m lib).error = none → mine = (alone.check file m lib).violations) ∧
      ((∃ settings, c = DocstringRule.checker settings) →
        mine = (alone.check file m lib).violations) := by
  have hall := unambiguous_entriesFor hbuiltin hnames
  have hsolo : Catalog.Unambiguous ⟨entriesFor [c]⟩ :=
    unambiguous_entriesFor (by simpa using hbuiltin c hc) (by simp)
  refine ⟨_, _, build_eq_configured hall filter overrides,
    build_eq_configured hsolo filter overrides, ?_⟩
  have htwins := twins_start hbuiltin hnames hc filter overrides file (scan m.source) lib
  have hstart : Alongside checkers c
      ((configured checkers filter overrides).start file (scan m.source) lib)
      ((configured [c] filter overrides).start file (scan m.source) lib) :=
    ⟨htwins, rfl, fun _ _ => Iff.rfl, fun _ => rfl⟩
  have hrun := hstart.run file m (scan m.source) hbuiltin hnames hc
    ((configured checkers filter overrides).agenda m) fun x hx => mem_checkers_of_mem_agenda hx
  have hagenda : ((configured checkers filter overrides).agenda m).filter (·.2.name == c.name) =
      (configured [c] filter overrides).agenda m := filter_agenda hnames hc rfl m
  rw [hagenda] at hrun
  rw [check_eq_untilFailed, check_eq_untilFailed]
  refine ⟨hrun.1, fun hnone => hrun.2 (.inl hnone), ?_⟩
  rintro ⟨settings, rfl⟩
  exact hrun.2 (.inr rfl)

/-- A class that implements an interface which the module does not know, and a print statement
after it. -/
def interrupted : Module :=
  let reference : Expr := .name ⟨"IMissing", ⟨1, 13⟩⟩
  let implementer : Decorator :=
    ⟨.other ⟨"implementer(IMissing)", ⟨1, 1⟩⟩, "implementer", [reference], true⟩
  ⟨"m", .ofString "m.py", [], false,
    #[⟨.root none, ⟨1, 0⟩, none, [1, 3]⟩,
      ⟨.classDef ⟨"A", [], [implementer], none⟩, ⟨2, 0⟩, some 0, [2]⟩,
      ⟨.functionDef ⟨"run", [], [], none, false⟩, ⟨3, 4⟩, some 1, []⟩,
      ⟨.print, ⟨4, 0⟩, some 0, []⟩]⟩

theorem check_isolated_interrupted :
    let checkers := [DocstringRule.checker .default, Python3.checker]
    let file : SourceFile := ⟨.ofString "m.py", [], "m", .ofString "m.py"⟩
    (∀ c ∈ checkers, Builtin c) ∧ (checkers.map Checker.name).Nodup ∧
      Python3.checker ∈ checkers ∧
      ((configured checkers .none []).check file interrupted default).error =
        some (.lookup "IMissing in m") ∧
      ∃ linter alone,
        build checkers (fun catalog => .ofFilter catalog .none []) = .ok linter ∧
        build [Python3.checker] (fun catalog => .ofFilter catalog .none []) = .ok alone ∧
        (linter.check file interrupted default).violations.filter
            (·.checker == Python3.checker.name) <+:
          (alone.check file interrupted default).violations := by
  have hbuiltin : ∀ c ∈ [DocstringRule.checker .default, Python3.checker], Builtin c := by
    simp only [List.forall_mem_cons, List.not_mem_nil, false_implies, implies_true, and_true]
    exact ⟨.docstring _, .python3⟩
  have hnames : ([DocstringRule.checker .default, Python3.checker].map Checker.name).Nodup := by
    decide
  have hc : Python3.checker ∈ [DocstringRule.checker .default, Python3.checker] := by simp
  refine ⟨hbuiltin, hnames, hc, by decide +kernel, ?_⟩
  obtain ⟨linter, alone, hlinter, halone, hpart, _⟩ := check_isolated _ hbuiltin hnames .none []
    ⟨.ofString "m.py", [], "m", .ofString "m.py"⟩ interrupted default _ hc
  exact ⟨linter, alone, hlinter, halone, hpart⟩

end Linter

end CodingStandard
