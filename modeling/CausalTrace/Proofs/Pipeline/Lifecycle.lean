import CausalTrace.Proofs.Bus.Hooking
import CausalTrace.Tracer

/-!
# Starting and stopping

A start goes well just when the pipeline is stopped, its settings are valid, its store can be opened
and the system gives its writer a thread; then a pair of hooks is placed for the run.  A stop goes
well just when there is a run, and takes the hooks of that run away again.  Whatever is refused
changes nothing that shows: neither hooks nor states nor counts, only directories may have been made
on the way.
-/

namespace CausalTrace

namespace Pipeline

variable {pipeline : Pipeline} {traffic : Traffic} {source : StoreSource}
  {thread : Except String Unit}

/-- The pipeline is stopped, its settings are valid, the store of the source can be opened and the
system gives a thread. -/
structure CanStart (pipeline : Pipeline) (traffic : Traffic) (source : StoreSource)
    (thread : Except String Unit) : Prop where
  stopped : pipeline.state = "stopped"
  valid : pipeline.config.validate = .ok ()
  opens : ∃ opened tree, openStore pipeline.config traffic.recording source = (.ok opened, tree)
  spawns : thread = .ok ()

@[simp] theorem config_enter (pipeline : Pipeline) (phase : Phase) :
    (pipeline.enter phase).config = pipeline.config := rfl

@[simp] theorem run_enter_stopped (pipeline : Pipeline) :
    (pipeline.enter .stopped).run = none := rfl

@[simp] theorem run_enter_running (pipeline : Pipeline) (run : Run) :
    (pipeline.enter (.running run)).run = some run := rfl

@[simp] theorem enter_enter (pipeline : Pipeline) (phase next : Phase) :
    (pipeline.enter phase).enter next = pipeline.enter next := rfl

/-- A phase is told from the others by its word. -/
theorem state_eq_stopped_iff : pipeline.state = "stopped" ↔ pipeline.phase = .stopped := by
  unfold state
  cases pipeline.phase <;> simp [Phase.word]

/-- A pipeline is running just when it has a run. -/
theorem state_eq_running_iff : pipeline.state = "running" ↔ pipeline.run.isSome := by
  unfold state run
  cases pipeline.phase <;> simp [Phase.word]

/-- A stopped pipeline has no run. -/
theorem run_of_stopped (stopped : pipeline.state = "stopped") : pipeline.run = none := by
  rw [run, state_eq_stopped_iff.1 stopped]

/-- The phase of a pipeline with a run. -/
theorem phase_of_run {run : Run} (running : pipeline.run = some run) :
    pipeline.phase = .running run := by
  unfold Pipeline.run at running
  split at running
  next other phase => rw [phase, Option.some.inj running]
  next => cases running

/-- Entering the phase where it stands changes nothing. -/
theorem enter_phase {phase : Phase} (same : pipeline.phase = phase) :
    pipeline.enter phase = pipeline := by
  subst same
  rfl

/-- What a start can do: it is refused, or it places a pair of hooks for its run. -/
theorem start_cases (pipeline : Pipeline) (traffic : Traffic) (source : StoreSource)
    (thread : Except String Unit) :
    (pipeline.CanStart traffic source thread ∧ ∃ place directory recording,
        let (pair, bus) := (HookPair.new place).place traffic.bus
        pipeline.start traffic source thread = (.ok (), pipeline.enter (.running ⟨pair, directory⟩),
          { traffic with recording := recording, bus := bus })) ∨
      (¬ pipeline.CanStart traffic source thread ∧ ∃ failure tree,
        pipeline.start traffic source thread
          = (.error failure, pipeline, traffic.withTree tree)) := by
  unfold start
  split
  next stopped =>
    -- Every way back from the phase of starting leads to the pipeline as it was.
    have back : (pipeline.enter .starting).enter .stopped = pipeline := enter_phase stopped
    dsimp only
    split
    next failure invalid =>
      right
      constructor
      · intro can
        rw [can.valid] at invalid
        cases invalid
      · exact ⟨failure, traffic.recording.tree, rfl⟩
    next valid =>
      split
      next failure tree refused =>
        right
        constructor
        · rintro ⟨-, -, ⟨opened, other, opens⟩, -⟩
          rw [refused] at opens
          cases opens
        · exact ⟨failure, tree, by rw [back]⟩
      next opened tree cause _ =>
        right
        constructor
        · rintro ⟨-, -, -, spawns⟩
          cases spawns
        · exact ⟨_, tree, by rw [back]⟩
      next store directory tree opened =>
        left
        exact ⟨⟨state_eq_stopped_iff.2 stopped, valid, ⟨_, _, opened⟩, rfl⟩, _, _, _, rfl⟩
  next busy =>
    right
    constructor
    · intro can
      exact busy (state_eq_stopped_iff.1 can.stopped)
    · exact ⟨_, traffic.recording.tree, rfl⟩

/-- What a start that goes well leaves: its store is open, and behind what was there stand a
recorder with a new writer and the pair of hooks that serves it. -/
theorem start_eq_ok {running : Pipeline} {started : Traffic}
    (begun : pipeline.start traffic source thread = (.ok (), running, started)) :
    let pair := (HookPair.new traffic.recording.recorders.length).place traffic.bus
    ∃ store directory tree,
      openStore pipeline.config traffic.recording source = (.ok (store, directory), tree) ∧
      running = pipeline.enter (.running ⟨pair.1, directory⟩) ∧
      started = { traffic with
        bus := pair.2
        recording := ({ traffic.recording with tree := tree }.add
          ⟨.new pipeline.config.channelCapacity pipeline.config.channelPolicy, .zero,
            some (.new pipeline.config.commitAttempts, store)⟩).2 } := by
  unfold start at begun
  split at begun
  next =>
    dsimp only at begun
    split at begun
    next => cases begun
    split at begun
    next => cases begun
    next => cases begun
    next store directory tree opened =>
      cases begun
      exact ⟨store, directory, tree, opened, rfl, rfl⟩
  next => cases begun

/-- What a stop can do: it is refused, or it takes away the hooks of the run. -/
theorem stop_cases (pipeline : Pipeline) (traffic : Traffic) :
    (pipeline.run = none ∧ ∃ failure,
        pipeline.stop traffic = (.error failure, pipeline, traffic)) ∨
      ∃ run report recording, pipeline.run = some run ∧
        pipeline.stop traffic = (.ok report, pipeline.enter .stopped,
          { traffic with recording := recording, bus := (run.hooks.remove traffic.bus).2 }) := by
  unfold stop
  split
  next run running =>
    right
    have has : pipeline.run = some run := by rw [Pipeline.run, running]
    -- Whether the writer is done in time decides what is recorded, not what is on the bus.
    dsimp only
    split
    · exact ⟨run, _, _, has, rfl⟩
    · exact ⟨run, _, _, has, rfl⟩
  next idle =>
    left
    refine ⟨?_, _, rfl⟩
    unfold run
    split
    next run running => exact absurd running (idle run)
    next => rfl

/-! ## When they go well -/

/-- A start goes well just when the pipeline can start. -/
theorem start_ok_iff :
    (∃ started after, pipeline.start traffic source thread = (.ok (), started, after)) ↔
      pipeline.CanStart traffic source thread := by
  rcases pipeline.start_cases traffic source thread with
    ⟨can, _, _, _, done⟩ | ⟨not, failure, _, refused⟩
  · exact ⟨fun _ => can, fun _ => ⟨_, _, done⟩⟩
  · constructor
    · rintro ⟨started, after, done⟩
      rw [refused] at done
      cases done
    · intro can
      exact absurd can not

/-- A stop goes well just when there is a run. -/
theorem stop_ok_iff :
    (∃ report stopped after, pipeline.stop traffic = (.ok report, stopped, after)) ↔
      pipeline.state = "running" := by
  rw [state_eq_running_iff]
  rcases pipeline.stop_cases traffic with ⟨idle, failure, refused⟩ | ⟨run, report, _, running, done⟩
  · constructor
    · rintro ⟨report, stopped, after, done⟩
      rw [refused] at done
      cases done
    · intro running
      rw [idle] at running
      cases running
  · constructor
    · intro
      rw [running]
      rfl
    · intro
      exact ⟨_, _, _, done⟩

/-- A refused start leaves the pipeline, the bus and all counts as they are. -/
theorem start_refused {failure : TraceError} {same : Pipeline} {after : Traffic}
    (refused : pipeline.start traffic source thread = (.error failure, same, after)) :
    same = pipeline ∧ after.bus = traffic.bus ∧
      ∀ other : Pipeline, other.counts after = other.counts traffic := by
  rcases pipeline.start_cases traffic source thread with ⟨_, _, _, _, done⟩ | ⟨_, _, tree, done⟩
  · rw [done] at refused
    cases refused
  · rw [done] at refused
    cases refused
    exact ⟨rfl, rfl, fun _ => rfl⟩

/-- A refused stop leaves everything as it is. -/
theorem stop_refused {failure : TraceError} {same : Pipeline} {after : Traffic}
    (refused : pipeline.stop traffic = (.error failure, same, after)) :
    same = pipeline ∧ after = traffic := by
  rcases pipeline.stop_cases traffic with ⟨_, _, done⟩ | ⟨_, _, _, _, done⟩
  · rw [done] at refused
    cases refused
    exact ⟨rfl, rfl⟩
  · rw [done] at refused
    cases refused

/-- What a pipeline answers on a bus: it starts just when it can and stops just when it runs, and
what it refuses changes neither itself nor the bus nor what anybody has counted. -/
structure Lawful (pipeline : Pipeline) (traffic : Traffic) : Prop where
  starts : ∀ source thread,
    (∃ started after, pipeline.start traffic source thread = (.ok (), started, after)) ↔
      pipeline.CanStart traffic source thread
  stops : (∃ report stopped after, pipeline.stop traffic = (.ok report, stopped, after)) ↔
    pipeline.state = "running"
  refusesStart : ∀ source thread failure same after,
    pipeline.start traffic source thread = (.error failure, same, after) →
      same = pipeline ∧ after.bus = traffic.bus ∧
        ∀ other : Pipeline, other.counts after = other.counts traffic
  refusesStop : ∀ failure same after, pipeline.stop traffic = (.error failure, same, after) →
    same = pipeline ∧ after = traffic

/-- Every pipeline is lawful on every bus. -/
theorem lawful (pipeline : Pipeline) (traffic : Traffic) : pipeline.Lawful traffic where
  starts _ _ := start_ok_iff
  stops := stop_ok_iff
  refusesStart _ _ _ _ _ := start_refused
  refusesStop _ _ _ := stop_refused

/-- Starting keeps the settings. -/
theorem config_start : (pipeline.start traffic source thread).2.1.config = pipeline.config := by
  rcases pipeline.start_cases traffic source thread with ⟨_, _, _, _, done⟩ | ⟨_, _, _, done⟩
  · rw [done, config_enter]
  · rw [done]

/-- Stopping keeps the settings. -/
theorem config_stop : (pipeline.stop traffic).2.1.config = pipeline.config := by
  rcases pipeline.stop_cases traffic with ⟨_, _, done⟩ | ⟨_, _, _, _, done⟩
  · rw [done]
  · rw [done, config_enter]

end Pipeline

/-! ## Runs that begin and end -/

/-- The run of the pipeline that is attached. -/
def Tracer.run (tracer : Tracer) : Option Run := tracer.pipeline.bind Pipeline.run

/-- What one call on a pipeline or on a tracer can do: nothing, or a run begins and its hooks are
placed, or a run ends and its hooks are removed. -/
inductive Turn (bus after : Bus) : Option Run → Option Run → Prop where
  | kept (run : Option Run) (same : after = bus) : Turn bus after run run
  | began (recorder : Nat) (directory : Option String)
      (placed : after = ((HookPair.new recorder).place bus).2) :
      Turn bus after none (some ⟨((HookPair.new recorder).place bus).1, directory⟩)
  | ended (run : Run) (removed : after = (run.hooks.remove bus).2) : Turn bus after (some run) none

/-- A start is a turn. -/
theorem Pipeline.turn_start (pipeline : Pipeline) (traffic : Traffic) (source : StoreSource)
    (thread : Except String Unit) :
    Turn traffic.bus (pipeline.start traffic source thread).2.2.bus pipeline.run
      (pipeline.start traffic source thread).2.1.run := by
  rcases pipeline.start_cases traffic source thread with ⟨can, _, _, _, done⟩ | ⟨-, _, _, done⟩
  · rw [done, run_of_stopped can.stopped]
    exact .began _ _ rfl
  · rw [done]
    exact .kept _ rfl

/-- A stop is a turn. -/
theorem Pipeline.turn_stop (pipeline : Pipeline) (traffic : Traffic) :
    Turn traffic.bus (pipeline.stop traffic).2.2.bus pipeline.run
      (pipeline.stop traffic).2.1.run := by
  rcases pipeline.stop_cases traffic with ⟨-, _, done⟩ | ⟨run, _, _, running, done⟩
  · rw [done]
    exact .kept _ rfl
  · rw [done, running]
    exact .ended run rfl

namespace Tracer

variable (traffic : Traffic) (config : Config) (source : StoreSource) (thread : Except String Unit)

/-- Attaching begins a run, or does nothing. -/
theorem turn_attach :
    Turn traffic.bus (attach traffic config source thread).2.bus none
      (attach traffic config source thread).1.run := by
  have turn := (Pipeline.new config).turn_start traffic source thread
  unfold attach
  rcases (Pipeline.new config).start_cases traffic source thread with
    ⟨_, _, _, _, done⟩ | ⟨_, _, _, done⟩
  · rw [done] at turn ⊢
    exact turn
  · rw [done] at turn ⊢
    exact .kept none rfl

/-- Attaching in the one way does to the bus what it does in the other. -/
theorem turn_tryAttach :
    Turn traffic.bus (tryAttach traffic config source thread).2.bus none
      ((tryAttach traffic config source thread).1.toOption.bind run) := by
  have same : (tryAttach traffic config source thread).2
        = (attach traffic config source thread).2 ∧
      (tryAttach traffic config source thread).1.toOption.bind run
        = (attach traffic config source thread).1.run := by
    unfold tryAttach attach
    split <;> exact ⟨rfl, rfl⟩
  rw [same.1, same.2]
  exact turn_attach traffic config source thread

/-- A shutdown ends the run, or there is none. -/
theorem turn_shutdown (tracer : Tracer) (traffic : Traffic) :
    Turn traffic.bus (tracer.shutdown traffic).2.bus tracer.run none := by
  obtain ⟨attached, reason⟩ := tracer
  cases attached with
  | none => exact .kept none rfl
  | some pipeline =>
    have turn := pipeline.turn_stop traffic
    rcases pipeline.stop_cases traffic with ⟨idle, -⟩ | ⟨run, _, _, running, done⟩
    · have quiet : pipeline.isRunning = false := by rw [Pipeline.isRunning, idle]; rfl
      simp only [shutdown, run, Option.bind_some, quiet, idle]
      exact .kept none rfl
    · have busy : pipeline.isRunning = true := by rw [Pipeline.isRunning, running]; rfl
      rw [done] at turn
      simp only [shutdown, busy, if_true, done]
      exact turn

end Tracer

end CausalTrace
