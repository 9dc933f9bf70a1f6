import CausalTrace.Error
import CausalTrace.Pipeline

/-!
# Tracers

A tracer is a pipeline that is attached to a bus.  Attaching never fails: if the pipeline cannot
be started, the tracer is disabled, knows why, and the bus goes on untraced.
-/

namespace CausalTrace

/-- A pipeline attached to a bus, or the reason why there is none. -/
structure Tracer where
  pipeline : Option Pipeline
  reason : Option String
  deriving DecidableEq, Repr, Inhabited

namespace Tracer

/-- Whether messages are being captured. -/
def isEnabled (tracer : Tracer) : Bool := tracer.pipeline.any Pipeline.isRunning

/-- The directory of the run, if it is on disk. -/
def directory (tracer : Tracer) : Option String := tracer.pipeline.bind Pipeline.directory

/-- Attaches a pipeline, or tells why it cannot be started. -/
def tryAttach (traffic : Traffic) (config : Config) (source : StoreSource)
    (thread : Except String Unit := .ok ()) : Except Error Tracer × Traffic :=
  match (Pipeline.new config).start traffic source thread with
  | (.ok (), pipeline, traffic) => (.ok ⟨some pipeline, none⟩, traffic)
  | (.error failure, _, traffic) => (.error (.ofTrace failure), traffic)

/-- Attaches a pipeline.  A tracer whose pipeline cannot be started is disabled. -/
def attach (traffic : Traffic) (config : Config) (source : StoreSource)
    (thread : Except String Unit := .ok ()) : Tracer × Traffic :=
  match (Pipeline.new config).start traffic source thread with
  | (.ok (), pipeline, traffic) => (⟨some pipeline, none⟩, traffic)
  | (.error failure, _, traffic) => (⟨none, some failure.message⟩, traffic)

/-- The counts of the run, or zeros. -/
def counts (tracer : Tracer) (traffic : Traffic) : Counts :=
  match tracer.pipeline with
  | some pipeline => pipeline.counts traffic
  | none => Stats.zero.snapshot none

/-- Stops capturing and tells what became of the run.  A disabled tracer has nothing to tell. -/
def shutdown (tracer : Tracer) (traffic : Traffic) : Except Error Report × Traffic :=
  match tracer.pipeline with
  | none => (.ok .empty, traffic)
  | some pipeline =>
    if pipeline.isRunning then
      match pipeline.stop traffic with
      | (.ok report, _, traffic) => (.ok report, traffic)
      | (.error failure, _, traffic) => (.error (.ofTrace failure), traffic)
    else (.ok .empty, traffic)

/-- Forgets a tracer, which is shut down first if it is still at work. -/
def forget (tracer : Tracer) (traffic : Traffic) : Traffic := (tracer.shutdown traffic).2

end Tracer

end CausalTrace
