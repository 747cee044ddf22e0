import CodingStandard.Checker

namespace CodingStandard

/-!
# The calls on a sink

The host credits a checker before it lets it visit a node. The credit stands in the log beside
a message that the catalog does not know; the violations name the checker of the catalog.
-/

inductive SinkCall where
  /-- Credits a checker with the messages that follow. -/
  | credit (checker : String)
  /-- Emits a message on a line. One about a node of a module takes the column from it. -/
  | emit (message : String) (line : Nat) (args : List String) (node : Option (Module × Nat))
  | emitAt (message : String) (line column : Nat) (args : List String)

def SinkCall.emission? : SinkCall → Option Emission
  | credit _ => none
  | emit message line args (some (m, node)) => some (.about m node message line args)
  | emit message line args none => some (.atPlace message line 0 args)
  | emitAt message line column args => some (.atPlace message line column args)

structure SinkSession where
  sink : Sink
  /-- The checker that is credited. -/
  credited : String
  /-- The messages that the catalog did not know, each with the checker credited with it. -/
  unknown : List (String × String)

namespace SinkSession

def start (sink : Sink) : SinkSession := ⟨sink, "", []⟩

def record (session : SinkSession) (e : Emission) : SinkSession where
  sink := session.sink.record e
  credited := session.credited
  unknown :=
    if (session.sink.catalog.get? e.message).isNone then
      session.unknown ++ [(e.message, session.credited)]
    else session.unknown

def call (session : SinkSession) : SinkCall → SinkSession
  | .credit checker => { session with credited := checker }
  | c => c.emission?.elim session session.record

def callAll (session : SinkSession) (calls : List SinkCall) : SinkSession :=
  calls.foldl call session

end SinkSession

end CodingStandard
