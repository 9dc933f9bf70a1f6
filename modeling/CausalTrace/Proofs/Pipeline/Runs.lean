import CausalTrace.Proofs.Pipeline.Lifecycle
import CausalTrace.Proofs.Recording.Logged

/-!
# A run into a directory

A pipeline that starts into a directory opens the log there and adds a recorder with a new writer.
Whatever traffic there is, the log then follows that writer's desk, and when the pipeline has been
stopped in time without an event let go, the batches of as many events as the report counts stand
behind the ones that were there before.
-/

namespace CausalTrace

namespace Recording

/-- A recorder that is added and writes, where all others are done. -/
theorem Rests.add {tree after : FileTree} {recording : Recording} (rests : Rests tree recording)
    {directory : String} {earlier : List Batch} {attempts : Nat} {recorder : Recorder}
    (follows : recorder.Follows directory earlier attempts after) :
    LogsAt recording.recorders.length directory earlier attempts
      ({ recording with tree := after }.add recorder).2 where
  writes := ⟨recorder, List.getElem?_concat_length, follows⟩
  quiet other elsewhere found present := by
    change (recording.recorders ++ [recorder])[other]? = some found at present
    rw [List.getElem?_append] at present
    split at present
    next => exact rests.quiet found (List.mem_of_getElem? present)
    next beyond =>
      have last : other - recording.recorders.length ≠ 0 := by omega
      cases gap : other - recording.recorders.length with
      | zero => exact absurd gap last
      | succ _ =>
        rw [gap] at present
        cases present

end Recording

namespace Pipeline

/-! ## Starting -/

/-- A workplace where work has not begun follows nothing yet. -/
theorem follows_new {store : LogStore} {tree : FileTree} {earlier : List Batch}
    {frames : List Bytes} (keeps : LogStore.Keeps (store, tree) earlier frames)
    (attempts : Nat) (channel : Channel Event) :
    (⟨channel, .zero, some (.new attempts, .log store)⟩ : Recorder).Follows store.directory
      earlier attempts tree := by
  refine ⟨.new attempts, .log store, rfl, .inr ⟨[], rfl, rfl, ⟨nofun, nofun⟩, store, rfl, rfl,
    frames, ?_⟩⟩
  change LogStore.Keeps (store, tree) (earlier ++ []) frames
  rw [List.append_nil]
  exact keeps

/-- What a start leaves that succeeds: an open store and a recorder with a new writer. -/
theorem start_opened {pipeline running : Pipeline} {traffic started : Traffic}
    {source : StoreSource} {thread : Except String Unit}
    (begun : pipeline.start traffic source thread = (.ok (), running, started)) :
    ∃ store directory tree run,
      openStore pipeline.config traffic.recording source = (.ok (store, directory), tree) ∧
      running.run = some run ∧ run.recorder = traffic.recording.recorders.length ∧
      run.directory = directory ∧
      started.recording = ({ traffic.recording with tree := tree }.add
        ⟨.new pipeline.config.channelCapacity pipeline.config.channelPolicy, .zero,
          some (.new pipeline.config.commitAttempts, store)⟩).2 := by
  obtain ⟨store, directory, tree, opened, rfl, rfl⟩ := start_eq_ok begun
  exact ⟨store, directory, tree, _, opened, rfl, rfl, rfl, rfl⟩

/-- A log that is opened is open in its directory. -/
theorem openLog_ok {tree after : FileTree} {path : String} {sync : SyncMode}
    {opened : OpenStore × Option String} (done : openLog tree path sync = (.ok opened, after)) :
    ∃ store, opened = (.log store, some path) ∧
      LogStore.openIn tree path sync = (.ok store, after) := by
  unfold openLog at done
  split at done
  next store _ found =>
    cases done
    exact ⟨store, rfl, found⟩
  next => cases done

/-- What a start into a directory leaves: an open log and a recorder with a new writer. -/
theorem start_directory {pipeline running : Pipeline} {traffic started : Traffic}
    {directory : String} {thread : Except String Unit}
    (begun : pipeline.start traffic (.directory directory) thread = (.ok (), running, started)) :
    ∃ store tree run,
      LogStore.openIn traffic.recording.tree directory pipeline.config.syncMode
        = (.ok store, tree) ∧
      running.run = some run ∧ run.recorder = traffic.recording.recorders.length ∧
      started.recording = ({ traffic.recording with tree := tree }.add
        ⟨.new pipeline.config.channelCapacity pipeline.config.channelPolicy, .zero,
          some (.new pipeline.config.commitAttempts, .log store)⟩).2 := by
  obtain ⟨kind, path, tree, run, opened, kept, place, -, added⟩ := start_opened begun
  obtain ⟨store, same, found⟩ := openLog_ok opened
  cases same
  exact ⟨store, tree, run, found, kept, place, added⟩

/-- After a start into a directory with a log, the new recorder writes to it. -/
theorem logsAt_start {pipeline running : Pipeline} {traffic started : Traffic} {tree : FileTree}
    {directory : String} {earlier : List Batch} {thread : Except String Unit}
    (begun : pipeline.start traffic (.directory directory) thread = (.ok (), running, started))
    (rests : Recording.Rests tree traffic.recording)
    (finds : LogStore.Finds traffic.recording.tree directory earlier) :
    ∃ run, running.run = some run ∧
      Recording.LogsAt run.recorder directory earlier pipeline.config.commitAttempts
        started.recording := by
  obtain ⟨store, after, run, opened, kept, place, added⟩ := start_directory begun
  obtain ⟨frames, keeps⟩ := finds opened
  have same : store.directory = directory := (LogStore.openIn_ok opened).2.1
  refine ⟨run, kept, ?_⟩
  rw [place, added]
  exact rests.add (same ▸ follows_new keeps _ _)

/-! ## Stopping -/

/-- Ending the channel and letting the writer finish leaves its log with it. -/
theorem logsAt_drain {recording : Recording} {place : Nat} {directory : String}
    {earlier : List Batch} {attempts : Nat}
    (logs : Recording.LogsAt place directory earlier attempts recording) :
    Recording.LogsAt place directory earlier attempts (drain recording place) := by
  obtain ⟨recorder, here, follows⟩ := logs.writes
  have ended : ({ recorder with channel := recorder.channel.close.1 } : Recorder).Follows directory
      earlier attempts recording.tree := follows.of_same rfl rfl rfl
  have closed := logs.set_writes ended recording.ids
  have set : recording.recorders.modify place
        (fun recorder => { recorder with channel := recorder.channel.close.1 })
      = recording.recorders.set place { recorder with channel := recorder.channel.close.1 } := by
    rw [List.modify_eq_set, here]
    rfl
  rw [drain, Recording.modify, set]
  exact closed.workAt place

/-- A stop in time gives up nothing. -/
theorem stop_inTime {pipeline stopped : Pipeline} {traffic after : Traffic} {report : Report}
    {run : Run} (running : pipeline.run = some run)
    (stop : pipeline.stop traffic = (.ok report, stopped, after))
    (inTime : report.timedOut = false) :
    after.recording = drain traffic.recording run.recorder ∧
      (after.recorderAt run.recorder).isDone = true ∧
      report.counts = (after.recorderAt run.recorder).counts := by
  rw [Pipeline.stop, phase_of_run running] at stop
  cases stop
  have done : ((traffic.record (drain · run.recorder)).recorderAt run.recorder).isDone = true := by
    simpa using inTime
  simp only [done, Bool.not_true, Bool.false_eq_true, if_false]
  exact ⟨rfl, done, trivial⟩

/-- A recorder that is done and let no event go has stored as many events as it counted. -/
theorem stored_done {directory : String} {earlier : List Batch} {attempts : Nat}
    {recorder : Recorder} {tree : FileTree}
    (follows : recorder.Follows directory earlier attempts tree)
    (done : recorder.isDone = true) (noneFailed : recorder.stats.failed = 0) :
    ∃ events : List Event, events.length = recorder.stats.persisted ∧
      LogStore.Written tree directory (earlier ++ (Writer.new 1).batches events) := by
  obtain ⟨desk, opened, back, (failed | ⟨event, failure, letGo⟩) | ⟨counted, logs⟩⟩ := follows
  · change 0 < recorder.stats.failed at failed
    omega
  · rw [Recorder.isDone, back] at done
    change desk.phase = _ at letGo
    simp [Desk.isDone, letGo] at done
  · rw [Recorder.isDone, back] at done
    have finished : desk.phase = .finished := by
      have survives : desk.phase ≠ .died := logs.survives.1
      simpa [Desk.isDone, survives] using done
    obtain ⟨store, _, here, frames, keeps⟩ := logs.keeps
    refine ⟨counted, logs.persisted.symm, store, frames, here, ?_⟩
    change LogStore.Keeps (store, tree)
      (earlier ++ (Writer.new attempts).batches (counted ++ desk.phase.uncounted)) frames at keeps
    rw [finished, Writer.batches_new] at keeps
    simpa [DeskPhase.uncounted] using keeps

/-! ## From start to stop -/

/-- One run into a directory: a pipeline was started, there was traffic, and the pipeline was
stopped in time with no event let go. -/
inductive RunsInto (directory : String) (before : Traffic) : Report → Traffic → Prop where
  | run {pipeline running stopped : Pipeline} {started busy after : Traffic} {report : Report}
      {thread : Except String Unit}
      (start : pipeline.start before (.directory directory) thread = (.ok (), running, started))
      (leads : Traffic.Leads started busy)
      (stop : running.stop busy = (.ok report, stopped, after))
      (inTime : report.timedOut = false) (noneFailed : report.counts.failed = 0) :
      RunsInto directory before report after

/-- A run stores the batches of as many events as its report counts behind those that were there,
and leaves no writer at work. -/
theorem RunsInto.stored {directory : String} {before after : Traffic} {report : Report}
    {tree : FileTree} {earlier : List Batch} (run : RunsInto directory before report after)
    (rests : Recording.Rests tree before.recording)
    (finds : LogStore.Finds before.recording.tree directory earlier) :
    ∃ events : List Event, events.length = report.counts.persisted ∧
      LogStore.Written after.recording.tree directory
        (earlier ++ (Writer.new 1).batches events) ∧
      Recording.Rests after.recording.tree after.recording := by
  obtain ⟨start, leads, stop, inTime, noneFailed⟩ := run
  obtain ⟨place, running, begun⟩ := logsAt_start start rests finds
  obtain ⟨left, done, counts⟩ := stop_inTime running stop inTime
  have busy := (Recording.LogsAt.invariant _ _ _ _).of_leads leads begun
  have logs := logsAt_drain busy
  rw [← left] at logs
  obtain ⟨recorder, here, follows⟩ := logs.writes
  have found : after.recorderAt place.recorder = recorder := by
    rw [Traffic.recorderAt, here]
    rfl
  rw [found] at done counts
  rw [counts] at noneFailed ⊢
  obtain ⟨events, count, written⟩ := stored_done follows done noneFailed
  refine ⟨events, count, written, fun other present => ?_, rfl⟩
  obtain ⟨spot, there⟩ := List.mem_iff_getElem?.1 present
  by_cases same : spot = place.recorder
  · subst same
    cases here.symm.trans there
    exact done
  · exact logs.quiet spot same other there

/-- A run of a new pipeline with default settings, in which one program is performed. -/
def perform (directory : String) (before : Traffic) (program : Program) :
    Except TraceError Report × Traffic :=
  let (_, running, started) := (new .default).start before (.directory directory) (.ok ())
  let (result, _, after) := running.stop (started.perform program)
  (result, after)

/-- A run that has been computed and that ended in time is a run into its directory. -/
theorem RunsInto.of_perform {directory : String} {before : Traffic} {program : Program}
    {report : Report}
    (begun : ((new .default).start before (.directory directory) (.ok ())).1.toOption = some ())
    (ended : (perform directory before program).1.toOption = some report)
    (inTime : report.timedOut = false) (noneFailed : report.counts.failed = 0) :
    RunsInto directory before report (perform directory before program).2 :=
  .run (Prod.ext (Frame.ok_of_toOption begun) rfl) (.perform .here program)
    (Prod.ext (Frame.ok_of_toOption ended) rfl) inTime noneFailed

end Pipeline

end CausalTrace
