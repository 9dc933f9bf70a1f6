import CausalTrace.Pipeline
import CausalTrace.Proofs.Bus.Stepping
import CausalTrace.Proofs.Storage.Directories
import CausalTrace.Proofs.Writing.Desks

/-!
# What stays of the files

A writer that works fills the file of its log and touches nothing else, so traffic of any kind gives
no name and takes none away.  Starting and stopping take none away either.
-/

namespace CausalTrace

open FileTree

namespace Workplace

variable {work after : Workplace (OpenStore × FileTree)}

/-- A writer that arrives at its store takes no name away. -/
theorem lasts_arrive (disk : OpenStore × FileTree) : Lasts disk.2 (Store.arrive disk).2 := by
  obtain ⟨store, tree⟩ := disk
  cases store <;> exact .refl tree

/-- A store that is closed takes no name away. -/
theorem lasts_close (disk : OpenStore × FileTree) : Lasts disk.2 (Store.close disk).2.2 := by
  obtain ⟨store, tree⟩ := disk
  cases store <;> exact .refl tree

/-- A commit fills the file of its log at most. -/
theorem lasts_commit (disk : OpenStore × FileTree) (batch : Batch) :
    Lasts disk.2 (Store.commit disk batch).2.2 := by
  obtain ⟨store, tree⟩ := disk
  cases store with
  | log store =>
    rw [commit_log, LogStore.commit]
    split
    · exact .refl tree
    · split
      · exact .refl tree
      · exact .fill tree store.file _
  | memory store => exact .refl tree
  | unreliable store => exact .refl tree

/-- A section of the work takes no name away. -/
theorem lasts_step (stepped : work.step = some after) : Lasts work.store.2 after.store.2 := by
  unfold step at stepped
  split at stepped
  next =>
    unfold takeNext at stepped
    split at stepped
    next =>
      cases stepped
      exact lasts_arrive work.store
    next =>
      cases stepped
      exact lasts_close work.store
    next => cases stepped
    next => cases stepped
  next event left _ =>
    have committed := lasts_commit work.store (work.desk.writer.batch event)
    unfold attempt at stepped
    split at stepped
    next => cases stepped
    split at stepped
    next done =>
      cases stepped
      rw [done] at committed
      exact committed
    next fatal =>
      cases stepped
      rw [fatal] at committed
      exact committed
    next failure store failed =>
      rw [failed] at committed
      split at stepped <;> cases stepped
      · exact committed
      · exact committed.trans (lasts_arrive store)
  next =>
    cases stepped
    exact .refl _
  next => cases stepped
  next => cases stepped

/-- Any number of steps at a desk take no name away. -/
theorem lasts_steps (count : Nat) (work : Workplace (OpenStore × FileTree)) :
    Lasts work.store.2 (steps count work).store.2 := by
  induction count generalizing work with
  | zero => exact .refl _
  | succ count ih =>
    rw [steps]
    split
    next => exact .refl _
    next after stepped => exact (lasts_step stepped).trans (ih after)

end Workplace

namespace Recorder

/-- A writer that works takes no name away. -/
theorem lasts_work (recorder : Recorder) (tree : FileTree) :
    Lasts tree (recorder.work tree).2 := by
  unfold work
  split
  next => exact .refl tree
  next desk store _ =>
    exact Workplace.lasts_steps _ ⟨desk, recorder.channel, recorder.stats, (store, tree)⟩

/-- A push lets the writer work at most. -/
theorem lasts_push (recorder : Recorder) (tree : FileTree) (event : Event) :
    Lasts tree (recorder.push tree event).2.2 := by
  unfold push
  split
  · exact recorder.lasts_work tree
  · exact .refl tree

end Recorder

namespace Recording

/-- The writer of any recorder can work without a name being lost. -/
theorem lasts_workAt (recording : Recording) (place : Nat) :
    Lasts recording.tree (recording.workAt place).tree := by
  unfold workAt
  split
  next => exact .refl _
  next recorder _ => exact recorder.lasts_work recording.tree

/-- A capture takes no name away, whatever becomes of its event. -/
theorem lasts_capture (recording : Recording) (place : Nat) (direction : Direction)
    (message : Message) :
    Lasts recording.tree (recording.capture place direction message).2.2.tree := by
  unfold capture
  split
  next => exact .refl _
  next recorder _ => exact Recorder.lasts_push _ recording.tree _

/-- Traffic takes no name away. -/
theorem Invariant.lasts (tree : FileTree) :
    Recording.Invariant fun recording => Lasts tree recording.tree where
  capture lasts place direction message := lasts.trans (lasts_capture _ place direction message)
  identify lasts _ := lasts
  workAt lasts place := lasts.trans (lasts_workAt _ place)
  tick lasts _ := lasts

end Recording

/-- Traffic of any kind takes no name away. -/
theorem Traffic.Leads.lasts {before after : Traffic} (leads : Traffic.Leads before after) :
    Lasts before.recording.tree after.recording.tree :=
  (Recording.Invariant.lasts before.recording.tree).of_leads leads (.refl _)

namespace RunDirectory

/-- A run directory that is made is an addition. -/
theorem lasts_makeFrom {tree after : FileTree} {parent name path : String} {left : Nat}
    (made : makeFrom tree parent name left = .ok (path, after)) : Lasts tree after := by
  induction left with
  | zero => cases made
  | succ left ih =>
    have own := Lasts.makeDirectory tree (Path.join parent (numbered name (names - (left + 1))))
    rw [makeFrom] at made
    split at made
    next done =>
      cases made
      rw [done] at own
      exact own
    next => exact ih made
    next => cases made

/-- Making a run directory takes no name away, also when every name is taken. -/
theorem lasts_make (tree : FileTree) (parent : String) (clock : Int64) :
    Lasts tree (make tree parent clock).2 := by
  have outer := Lasts.makeDirectories tree parent
  unfold make
  split
  next failed =>
    rw [failed] at outer
    exact outer
  next between done =>
    rw [done] at outer
    split
    next made => exact outer.trans (lasts_makeFrom made)
    next => exact outer

end RunDirectory

namespace Pipeline

/-- Opening a log takes no name away, also when it fails. -/
theorem lasts_openLog (tree : FileTree) (path : String) (sync : SyncMode) :
    Lasts tree (openLog tree path sync).2 := by
  have opened := LogStore.lasts_openIn tree path sync
  unfold openLog
  split
  next done =>
    rw [done] at opened
    exact opened
  next failed =>
    rw [failed] at opened
    exact opened

/-- Opening a store of any kind takes no name away. -/
theorem lasts_openStore (config : Config) (recording : Recording) (source : StoreSource) :
    Lasts recording.tree (openStore config recording source).2 := by
  cases source with
  | runDirectory =>
    have made := RunDirectory.lasts_make recording.tree config.outputDirectory recording.clock
    rw [openStore]
    split
    next path tree done =>
      rw [done] at made
      exact made.trans (lasts_openLog tree path config.syncMode)
    next failed =>
      rw [failed] at made
      exact made
  | directory path => exact lasts_openLog recording.tree path config.syncMode
  | provided store => exact .refl _
  | opener result => cases result <;> exact .refl _

/-- A start takes no name away, whatever it starts into and whether it succeeds. -/
theorem lasts_start (pipeline : Pipeline) (traffic : Traffic) (source : StoreSource)
    (thread : Except String Unit) :
    Lasts traffic.recording.tree (pipeline.start traffic source thread).2.2.recording.tree := by
  have opened := lasts_openStore pipeline.config traffic.recording source
  unfold start
  split
  next =>
    dsimp only
    split
    next => exact .refl _
    next =>
      split
      next failed =>
        rw [failed] at opened
        exact opened
      next unthreaded =>
        rw [unthreaded] at opened
        exact opened
      next done =>
        rw [done] at opened
        exact opened
  next => exact .refl _

/-- Draining a channel takes no name away. -/
theorem lasts_drain (recording : Recording) (place : Nat) :
    Lasts recording.tree (drain recording place).tree :=
  Recording.lasts_workAt (recording.modify place _) place

/-- Nor does a stop. -/
theorem lasts_stop (pipeline : Pipeline) (traffic : Traffic) :
    Lasts traffic.recording.tree (pipeline.stop traffic).2.2.recording.tree := by
  unfold stop
  split
  next run _ =>
    have drained := lasts_drain traffic.recording run.recorder
    dsimp only
    split
    · exact drained.trans (Recording.lasts_workAt
        ((drain traffic.recording run.recorder).modify run.recorder abandon) run.recorder)
    · exact drained
  next => exact .refl _

end Pipeline

end CausalTrace
