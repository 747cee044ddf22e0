import CodingStandard.Proofs.Arrangement
import CodingStandard.Proofs.Recording
import CodingStandard.Sink.Session

namespace CodingStandard

/-!
# Which calls on a sink are recorded

A call is recorded by what the catalog, the policy and the directives on two lines of the source say
of its message, whatever calls were made before or come after. The line of a message is moved into
the source first, so the directives that count are those at the line that is reported.
-/

/-! ## Directives by line -/

/-- A line of a source carries a directive that names a text. -/
def Text.Disables (source : Text) (line : Nat) (name : String) : Prop :=
  ∃ physical ∈ (scan source).physical, physical.number = line ∧
    ∃ comment ∈ physical.comment, ∃ directive ∈ Directive.parse? comment.text,
      name.toList ∈ directive.names

namespace Suppressions

variable {s : Suppressions} {source : Text} {line : Nat} {code symbol : String}
  {directive : Directive}

theorem mem_directives_ofScan :
    (line, directive) ∈ (ofScan (scan source)).directives ↔
      ∃ physical ∈ (scan source).physical, physical.number = line ∧
        ∃ comment ∈ physical.comment, directive ∈ Directive.parse? comment.text := by
  simp only [ofScan, List.mem_filterMap, Option.bind_eq_bind, Option.bind_eq_some_iff,
    Option.some.injEq, Prod.mk.injEq, Option.mem_def]
  constructor
  · rintro ⟨physical, hphysical, comment, hcomment, _, hdirective, rfl, rfl⟩
    exact ⟨physical, hphysical, rfl, comment, hcomment, hdirective⟩
  · rintro ⟨physical, hphysical, rfl, comment, hcomment, hdirective⟩
    exact ⟨physical, hphysical, comment, hcomment, directive, hdirective, rfl, rfl⟩

theorem nodup_lines_ofScan (source : Text) :
    ((ofScan (scan source)).directives.map (·.1)).Nodup := by
  have hnumbers : ((scan source).physical.map (·.number)).Nodup := by
    rw [(arranged_scan source).numbers]
    exact List.nodup_range' 1
  apply List.pairwise_map.mpr
  apply List.pairwise_filterMap.mpr
  refine (List.pairwise_map.mp hnumbers).imp fun hne x hx y hy => ?_
  simp only [Option.bind_eq_bind, Option.bind_eq_some_iff, Option.some.injEq] at hx hy
  obtain ⟨_, _, _, _, rfl⟩ := hx
  obtain ⟨_, _, _, _, rfl⟩ := hy
  exact hne

/-- No line has two directives, so the one that is found for a line is the one that it carries. -/
theorem onLine?_ofScan_eq_some_iff :
    (ofScan (scan source)).onLine? line = some directive ↔
      ∃ physical ∈ (scan source).physical, physical.number = line ∧
        ∃ comment ∈ physical.comment, directive ∈ Directive.parse? comment.text := by
  rw [← mem_directives_ofScan, onLine?, List.lookup_eq_some_iff]
  constructor
  · rintro ⟨front, back, hsplit, -⟩
    simp [hsplit]
  · intro hmem
    obtain ⟨front, back, hsplit⟩ := List.append_of_mem hmem
    refine ⟨front, back, hsplit, fun other hother => ?_⟩
    -- A lookup takes the first pair with the line, and there is no other.
    have hnodup := nodup_lines_ofScan source
    rw [hsplit, List.map_append, List.nodup_append] at hnodup
    have hne := hnodup.2.2 other.1 (List.mem_map_of_mem hother) line (by simp)
    simpa using hne.symm

theorem verdictOf?_eq_none_iff :
    s.verdictOf? line code symbol = none ↔
      ∀ directive, s.onLine? line = some directive → ¬ directive.covers code symbol := by
  cases hline : s.onLine? line with
  | none => simp [verdictOf?, hline]
  | some directive => simp [verdictOf?, hline]

/-- A directive can only silence. -/
theorem eq_silenced_of_verdictOf? {verdict : Verdict}
    (h : s.verdictOf? line code symbol = some verdict) : ∃ reason, verdict = .silenced reason := by
  obtain ⟨directive, -, hverdict⟩ := Option.bind_eq_some_iff.mp h
  split at hverdict
  · exact ⟨directive.reason, (Option.some.inj hverdict).symm⟩
  · cases hverdict

theorem check_eq_reported_iff :
    s.check line code symbol = .reported ↔
      ∀ l ∈ [line - 1, line], s.verdictOf? l code symbol = none := by
  simp only [check, List.forall_mem_cons, List.not_mem_nil, false_implies, implies_true, and_true]
  cases habove : s.verdictOf? (line - 1) code symbol with
  | some verdict =>
      obtain ⟨reason, rfl⟩ := eq_silenced_of_verdictOf? habove
      simp
  | none =>
      cases hown : s.verdictOf? line code symbol with
      | some verdict =>
          obtain ⟨reason, rfl⟩ := eq_silenced_of_verdictOf? hown
          simp
      | none => simp

theorem verdictOf?_ofScan_eq_none_iff :
    (ofScan (scan source)).verdictOf? line code symbol = none ↔
      ∀ name ∈ ["all", code, symbol], ¬ source.Disables line name := by
  rw [verdictOf?_eq_none_iff]
  constructor
  · intro h name hname hdisables
    obtain ⟨physical, hphysical, hnumber, comment, hcomment, directive, hparsed, hnamed⟩ :=
      hdisables
    have hline : (ofScan (scan source)).onLine? line = some directive :=
      onLine?_ofScan_eq_some_iff.mpr ⟨physical, hphysical, hnumber, comment, hcomment, hparsed⟩
    exact h directive hline (List.any_eq_true.mpr ⟨name, hname, by simpa using hnamed⟩)
  · intro h directive hline hcovers
    obtain ⟨name, hname, hnamed⟩ := List.any_eq_true.mp hcovers
    obtain ⟨physical, hphysical, hnumber, comment, hcomment, hparsed⟩ :=
      onLine?_ofScan_eq_some_iff.mp hline
    exact h name hname
      ⟨physical, hphysical, hnumber, comment, hcomment, directive, hparsed, by simpa using hnamed⟩

/-- A message is reported unless a directive on its line or on the line above names it. -/
theorem check_ofScan_eq_reported_iff :
    (ofScan (scan source)).check line code symbol = .reported ↔
      ∀ l ∈ [line - 1, line], ∀ name ∈ ["all", code, symbol], ¬ source.Disables l name := by
  simp only [check_eq_reported_iff, verdictOf?_ofScan_eq_none_iff]

end Suppressions

/-! ## Calls -/

/-- A call on the sink of a file is recorded as a violation: the catalog knows its message, the
policy enables it, and neither the line that is closest to its own nor the line above carries a
directive that names it. -/
inductive SinkCall.RecordedAs (catalog : Catalog) (policy : Policy) (file : SourceFile)
    (c : SinkCall) : Violation → Prop
  | intro {e : Emission} {entry : CatalogEntry} {line : Nat}
      (hemits : c.emission? = some e)
      (hentry : catalog.get? e.message = some entry)
      (henabled : policy.isEnabled entry.message.code)
      (hline : line = max 1 (min e.line (max 1 (Text.lines file.content).length)))
      (hdirectives : ∀ l ∈ [line - 1, line],
        ∀ name ∈ ["all", entry.message.code, entry.message.symbol],
          ¬ Text.Disables file.content l name) :
      c.RecordedAs catalog policy file
        { code := entry.message.code
          symbol := entry.message.symbol
          checker := entry.checker
          severity := policy.severity entry.message.code
          location := Sink.locate file line e.column
          message := entry.message.render e.args
          args := e.args
          node := e.node }

namespace SinkSession

variable {session : SinkSession} {c : SinkCall} {calls : List SinkCall}

theorem sink_call : (session.call c).sink = session.sink.recordAll c.emission?.toList := by
  cases c with
  | credit checker => rfl
  | emit message line args node => cases node <;> rfl
  | emitAt message line column args => rfl

theorem sink_callAll :
    (session.callAll calls).sink = session.sink.recordAll (calls.filterMap SinkCall.emission?) := by
  induction calls generalizing session with
  | nil => rfl
  | cons c calls ih =>
      have hstep : session.callAll (c :: calls) = (session.call c).callAll calls := rfl
      rw [hstep, ih, sink_call, List.filterMap_cons]
      cases c.emission? <;> rfl

/-- What the sink of a file makes of a call. -/
def recorded? (sink : Sink) (c : SinkCall) : Option Violation :=
  c.emission?.bind sink.reported?

theorem recorded?_eq_some_iff {catalog : Catalog} {policy : Policy} {file : SourceFile}
    {v : Violation} :
    recorded? (.start catalog policy file (.ofScan (scan file.content))) c = some v ↔
      c.RecordedAs catalog policy file v := by
  constructor
  · intro h
    obtain ⟨e, hemits, hreported⟩ := Option.bind_eq_some_iff.mp h
    obtain ⟨entry, hentry, hv⟩ := Option.bind_eq_some_iff.mp hreported
    split at hv
    next hreports =>
      obtain rfl := Option.some.inj hv
      obtain ⟨henabled, hcheck⟩ := Bool.and_eq_true_iff.mp hreports
      exact .intro hemits hentry henabled rfl
        (Suppressions.check_ofScan_eq_reported_iff.mp (eq_of_beq hcheck))
    next => cases hv
  · rintro ⟨hemits, hentry, henabled, rfl, hdirectives⟩
    have hcheck := Suppressions.check_ofScan_eq_reported_iff.mpr hdirectives
    have hreports := Bool.and_eq_true_iff.mpr ⟨henabled, beq_iff_eq.mpr hcheck⟩
    exact Option.bind_eq_some_iff.mpr
      ⟨_, hemits, Option.bind_eq_some_iff.mpr ⟨_, hentry, if_pos hreports⟩⟩

/-- The sink of a file keeps exactly one violation for each call that is to be recorded, in the
order of the calls, and nothing of a call depends on the others. -/
theorem callAll_recordsEach (catalog : Catalog) (policy : Policy) (file : SourceFile) :
    ∃ outcome : SinkCall → Option Violation,
      (∀ calls, ((start (.start catalog policy file (.ofScan (scan file.content)))).callAll
        calls).sink.violations = calls.filterMap outcome) ∧
      ∀ c v, outcome c = some v ↔ c.RecordedAs catalog policy file v := by
  refine ⟨recorded? (.start catalog policy file (.ofScan (scan file.content))), ?_,
    fun c v => recorded?_eq_some_iff⟩
  intro calls
  rw [sink_callAll, Sink.recordAll_eq, Sink.violations_extend, List.filterMap_filterMap]
  rfl

end SinkSession

end CodingStandard
