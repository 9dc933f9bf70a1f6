import CausalTrace.Bus.HookPair
import CausalTrace.Bus.Traffic
import CausalTrace.Config
import CausalTrace.RunDirectory

/-!
# Pipelines

A pipeline connects a bus with a store: one hook on each side of the bus, a channel, and a writer
at its other end.  Starting opens the store first and asks for a thread for the writer next, so a
store that cannot be opened and a thread that is not given leave the bus as it was.  Stopping ends
the channel, lets the writer finish, gives up what is still in the channel if the writer cannot go
on, and removes the hooks.

The traffic outlives its pipelines: a recorder keeps its place after its pipeline has stopped,
and a writer that was held up in a commit finishes it later.
-/

namespace CausalTrace

/-- Where a pipeline takes its store from. -/
inductive StoreSource where
  /-- A log in a new directory for the run. -/
  | runDirectory
  /-- A log in a given directory. -/
  | directory (path : String)
  /-- A store that is already open. -/
  | provided (store : OpenStore)
  /-- What opening another kind of store comes to. -/
  | opener (result : Except StoreError OpenStore)
  deriving Inhabited

/-- The name of a source in diagnostics. -/
def StoreSource.describe : StoreSource → String
  | runDirectory => "RunDirectory"
  | directory path => "Directory(" ++ Quoted.render path ++ ")"
  | provided store => "Provided(" ++ Quoted.render store.name ++ ")"
  | opener _ => "Opener"

/-- The counts at the end of a run. -/
structure Report where
  counts : Counts
  /-- Whether the writer could not finish in time. -/
  timedOut : Bool
  /-- The directory of the log, if there was one. -/
  directory : Option String
  deriving DecidableEq, Repr, Inhabited

/-- The report of a run that never was. -/
def Report.empty : Report := ⟨Stats.zero.snapshot none, false, none⟩

/-- What a running pipeline has on its bus. -/
structure Run where
  hooks : HookPair
  directory : Option String
  deriving DecidableEq, Repr, Inhabited

/-- The place of the recorder of a run. -/
def Run.recorder (run : Run) : Nat := run.hooks.recorder

/-- Where a pipeline stands between one start and the next. -/
inductive Phase where
  /-- Nothing is captured. -/
  | stopped
  /-- The store is being opened and the writer gets its thread. -/
  | starting
  | running (run : Run)
  /-- The channel has ended and the writer finishes. -/
  | draining
  deriving DecidableEq, Repr, Inhabited

/-- The word for a phase. -/
def Phase.word : Phase → String
  | stopped => "stopped"
  | starting => "starting"
  | running _ => "running"
  | draining => "draining"

/-- Settings, and how far the pipeline has got. -/
structure Pipeline where
  config : Config
  phase : Phase
  deriving DecidableEq, Repr, Inhabited

namespace Traffic

/-- Places a pair of hooks. -/
def placeHooks (traffic : Traffic) (pair : HookPair) : HookPair × Traffic :=
  let (pair, bus) := pair.place traffic.bus
  (pair, { traffic with bus := bus })

/-- Removes a pair of hooks. -/
def removeHooks (traffic : Traffic) (pair : HookPair) : HookPair × Traffic :=
  let (pair, bus) := pair.remove traffic.bus
  (pair, { traffic with bus := bus })

/-- Changes the files. -/
def withTree (traffic : Traffic) (tree : FileTree) : Traffic :=
  { traffic with recording := { traffic.recording with tree := tree } }

/-- Changes the recording. -/
def record (traffic : Traffic) (change : Recording → Recording) : Traffic :=
  { traffic with recording := change traffic.recording }

/-- The recorder at a place. -/
def recorderAt (traffic : Traffic) (place : Nat) : Recorder :=
  (traffic.recording.recorders[place]?).getD default

end Traffic

namespace Pipeline

/-- A pipeline that has not been started. -/
def new (config : Config) : Pipeline := ⟨config, .stopped⟩

/-- The present run. -/
def run (pipeline : Pipeline) : Option Run :=
  match pipeline.phase with
  | .running run => some run
  | _ => none

/-- Whether messages are being captured. -/
def isRunning (pipeline : Pipeline) : Bool := pipeline.run.isSome

/-- The word for the state. -/
def state (pipeline : Pipeline) : String := pipeline.phase.word

/-- The pipeline in another phase. -/
def enter (pipeline : Pipeline) (phase : Phase) : Pipeline := { pipeline with phase := phase }

/-- The directory of the present run. -/
def directory (pipeline : Pipeline) : Option String := pipeline.run.bind Run.directory

/-- The pipeline in diagnostics. -/
def describe (pipeline : Pipeline) : String :=
  "TracePipeline \x7b state: " ++ pipeline.state.capitalize
    ++ ", run_dir: " ++ (match pipeline.directory with
      | some path => "Some(" ++ Quoted.render path ++ ")"
      | none => "None")
    ++ " \x7d"

/-- The failure of a store that cannot be opened. -/
def unavailable (failure : StoreError) : TraceError := .storeUnavailable failure.message

/-- Opens a log. -/
def openLog (tree : FileTree) (path : String) (sync : SyncMode) :
    Except TraceError (OpenStore × Option String) × FileTree :=
  match LogStore.openIn tree path sync with
  | (.ok store, tree) => (.ok (.log store, some path), tree)
  | (.error failure, tree) => (.error (unavailable failure), tree)

/-- Opens the store of a source.  Directories stay even if the store cannot be opened. -/
def openStore (config : Config) (recording : Recording) :
    StoreSource → Except TraceError (OpenStore × Option String) × FileTree
  | .runDirectory =>
    match RunDirectory.make recording.tree config.outputDirectory recording.clock with
    | (.ok path, tree) => openLog tree path config.syncMode
    | (.error cause, tree) =>
      (.error (.storeUnavailable (config.outputDirectory ++ ": " ++ cause)), tree)
  | .directory path => openLog recording.tree path config.syncMode
  | .provided store => (.ok (store, none), recording.tree)
  | .opener (.ok store) => (.ok (store, none), recording.tree)
  | .opener (.error failure) => (.error (unavailable failure), recording.tree)

/-- Starts capturing.  The system gives the writer its thread, or says why it does not: then the
store has been opened for nothing and the pipeline is stopped again. -/
def start (pipeline : Pipeline) (traffic : Traffic) (source : StoreSource)
    (thread : Except String Unit := .ok ()) : Except TraceError Unit × Pipeline × Traffic :=
  match pipeline.phase with
  | .stopped =>
    let config := pipeline.config
    match config.validate with
    | .error failure => (.error failure, pipeline, traffic)
    | .ok () =>
      let starting := pipeline.enter .starting
      match openStore config traffic.recording source, thread with
      | (.error failure, tree), _ =>
        (.error failure, starting.enter .stopped, traffic.withTree tree)
      | (.ok _, tree), .error cause =>
        (.error (.invalidState ("writer spawn failed: " ++ cause)), starting.enter .stopped,
          traffic.withTree tree)
      | (.ok (store, directory), tree), .ok () =>
        let recorder : Recorder := {
          Recorder.new config.channelCapacity config.channelPolicy with
          back := some (.new config.commitAttempts, store) }
        let (place, recording) := (traffic.withTree tree).recording.add recorder
        let (hooks, traffic) := { traffic with recording := recording }.placeHooks (.new place)
        (.ok (), starting.enter (.running ⟨hooks, directory⟩), traffic)
  | _ =>
    (.error (.invalidState ("cannot start a " ++ pipeline.state ++ " pipeline")), pipeline, traffic)

/-- The counts of the present run, or zeros. -/
def counts (pipeline : Pipeline) (traffic : Traffic) : Counts :=
  match pipeline.run with
  | some run => (traffic.recorderAt run.recorder).counts
  | none => Stats.zero.snapshot none

/-- Ends the channel of a recorder and lets its writer finish. -/
def drain (recording : Recording) (place : Nat) : Recording :=
  (recording.modify place fun recorder =>
    { recorder with channel := recorder.channel.close.1 }).workAt place

/-- Gives up what is still in the channel of a recorder. -/
def abandon (recorder : Recorder) : Recorder :=
  let (channel, lost) := recorder.channel.discard
  { recorder with
    channel := channel
    stats := { recorder.stats with lost := recorder.stats.lost + lost } }

/-- Stops capturing and tells what became of the run. -/
def stop (pipeline : Pipeline) (traffic : Traffic) :
    Except TraceError Report × Pipeline × Traffic :=
  match pipeline.phase with
  | .running run =>
    let draining := pipeline.enter .draining
    let traffic := traffic.record (drain · run.recorder)
    let timedOut := !(traffic.recorderAt run.recorder).isDone
    let traffic :=
      if timedOut then
        traffic.record fun recording =>
          (recording.modify run.recorder abandon).workAt run.recorder
      else traffic
    let traffic := (traffic.removeHooks run.hooks).2
    (.ok ⟨(traffic.recorderAt run.recorder).counts, timedOut, run.directory⟩,
      draining.enter .stopped, traffic)
  | _ =>
    (.error (.invalidState ("cannot stop a " ++ pipeline.state ++ " pipeline")), pipeline, traffic)

/-- Forgets a pipeline.  The hooks of a run stay, but its channel ends, so the writer finishes
and nothing more is captured. -/
def forget (pipeline : Pipeline) (traffic : Traffic) : Traffic :=
  match pipeline.run with
  | some run => traffic.record (drain · run.recorder)
  | none => traffic

end Pipeline

end CausalTrace
