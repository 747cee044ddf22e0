import CodingStandard.Sink

namespace CodingStandard

/-!
# What a sink keeps

A sink treats every emission on its own: the catalog, the policy and the directives of the file
decide what becomes of it, and nothing that was emitted before.
-/

namespace Sink

/-- The code under which an emission is noted, if the catalog knows it. -/
def noted? (sink : Sink) (e : Emission) : Option String :=
  (sink.catalog.get? e.message).map (·.message.code)

/-- The violation that an emission is reported as, if it is reported. -/
def reported? (sink : Sink) (e : Emission) : Option Violation :=
  (sink.catalog.get? e.message).bind fun entry =>
    if sink.reports entry e.line then some (sink.violationOf entry e) else none

/-- The sink after some codes were noted and some violations reported. -/
def extend (sink : Sink) (codes : List String) (found : List Violation) : Sink :=
  { sink with attempted := sink.attempted ++ codes, violations := sink.violations ++ found }

@[simp] theorem attempted_extend (sink : Sink) (codes : List String) (found : List Violation) :
    (sink.extend codes found).attempted = sink.attempted ++ codes := rfl

@[simp] theorem violations_extend (sink : Sink) (codes : List String) (found : List Violation) :
    (sink.extend codes found).violations = sink.violations ++ found := rfl

@[simp] theorem noted?_extend (sink : Sink) (codes : List String) (found : List Violation) :
    (sink.extend codes found).noted? = sink.noted? := rfl

@[simp] theorem reported?_extend (sink : Sink) (codes : List String) (found : List Violation) :
    (sink.extend codes found).reported? = sink.reported? := rfl

theorem extend_extend (sink : Sink) (codes more : List String) (found others : List Violation) :
    (sink.extend codes found).extend more others =
      sink.extend (codes ++ more) (found ++ others) := by
  simp [extend, List.append_assoc]

theorem record_eq (sink : Sink) (e : Emission) :
    sink.record e = sink.extend (sink.noted? e).toList (sink.reported? e).toList := by
  unfold record noted? reported? extend
  cases hentry : sink.catalog.get? e.message with
  | none => simp
  | some entry =>
      by_cases hreports : sink.reports entry e.line <;> simp [hreports]

/-- Every emission leaves its own traces, in the order of the emissions. -/
theorem recordAll_eq (sink : Sink) (es : List Emission) :
    sink.recordAll es = sink.extend (es.filterMap sink.noted?) (es.filterMap sink.reported?) := by
  induction es generalizing sink with
  | nil => simp [recordAll, extend]
  | cons e es ih =>
      have hstep : sink.recordAll (e :: es) = (sink.record e).recordAll es := rfl
      rw [hstep, ih, record_eq, noted?_extend, reported?_extend, extend_extend]
      cases hnoted : sink.noted? e <;> cases hreported : sink.reported? e <;>
        simp [hnoted, hreported]

end Sink

end CodingStandard
