import CausalTrace.Proofs.Pipeline.Lifecycle
import CausalTrace.Proofs.Pipeline.Sessions

/-!
# One party at a time

A running pipeline lets its parties take turns: the writer works until it has to wait, a hook hands
in its event from the first section to the last, and stopping waits for no one.  Each turn is some
sections of a session with nothing in between, so what holds of every session holds of a pipeline
that runs this way.
-/

namespace CausalTrace

namespace Session

open Channel (Calls)

section Turns

variable {σ : Type} [Store σ] {s after : Session σ} {work : Workplace σ}

/-- A later session of a pipeline that has been stopped no further. -/
structure Reaches (s after : Session σ) : Prop where
  leads : Leads s after
  stage : after.stage = s.stage
  directory : after.directory = s.directory

/-- What is reached can be gone on from. -/
theorem Reaches.trans {first middle last : Session σ} (before : Reaches first middle)
    (behind : Reaches middle last) : Reaches first last where
  leads := before.leads.trans behind.leads
  stage := behind.stage.trans before.stage
  directory := behind.directory.trans before.directory

/-! ## The writer's turn -/

/-- The calls that were there stand where they stood. -/
def Leaves (s after : Session σ) : Prop :=
  ∀ (place : Nat) (call : Channel.Call Event), s.line.calls[place]? = some call →
    after.line.calls[place]? = some call

/-- A session after a turn of the writer: it asks for nothing, and has left the calls of others. -/
structure Turned (s after : Session σ) (work : Workplace σ) : Prop where
  reaches : Reaches s after
  work : after.work = work
  free : after.asking = none
  calls : s.Leaves after

/-- A writer that does nothing has had its turn. -/
theorem Turned.nothing (free : s.asking = none) : Turned s s s.work :=
  ⟨⟨.here, rfl, rfl⟩, rfl, free, fun _ _ here => here⟩

/-- A call that was just begun is none of those that were there. -/
theorem getElem?_set_begun {α : Type} {calls : List α} {place : Nat} {call : α}
    (here : calls[place]? = some call) (begun now : α) :
    ((calls ++ [begun]).set calls.length now)[place]? = some call := by
  obtain ⟨known, -⟩ := List.getElem?_eq_some_iff.1 here
  rw [List.getElem?_set_ne (Nat.ne_of_gt known), List.getElem?_append_left known, here]

/-- Looking for the next event is a receive from its first section to its last. -/
theorem Turned.takeNext (free : s.asking = none) (idle : s.desk.phase = .idle)
    (taken : s.work.takeNext = some work) : ∃ after, Turned s after work := by
  have asked : Leads s { s with
      line := s.line.begin (.receive .looking)
      asking := some s.line.calls.length } := Leads.here.step (.works (.ask idle free))
  have known : s.line.calls.length < (s.line.calls ++ [Channel.Call.receive .looking]).length := by
    simp
  have looked := asked.step (.works (.receive rfl (.look List.getElem?_concat_length)))
  rw [Workplace.takeNext_eq] at taken
  rcases found : s.line.channel.look with ⟨channel, phase⟩
  have sees : s.work.channel.look = (channel, phase) := found
  rw [sees] at taken
  rw [Calls.begin, found] at looked
  -- The writer has the event in hand once its receive has counted it.
  cases phase with
  | item event =>
    cases taken
    have counted := looked.step (.works (.receive rfl
      (.countReceived (List.getElem?_set_self known))))
    have given := counted.step (.works (.given rfl
      (List.getElem?_set_self (Nat.lt_of_lt_of_eq known List.length_set.symm))))
    refine ⟨_, ⟨given, rfl, rfl⟩, rfl, rfl, fun place call here => ?_⟩
    show (((s.line.calls ++ [Channel.Call.receive .looking]).set s.line.calls.length _).set
      s.line.calls.length _)[place]? = _
    rw [List.set_set]
    exact getElem?_set_begun here _ _
  | closed =>
    cases taken
    have finished := looked.step (.works (.finish rfl (List.getElem?_set_self known)))
    exact ⟨_, ⟨finished, rfl, rfl⟩, rfl, rfl, fun _ _ here => getElem?_set_begun here _ _⟩
  | waiting | timedOut => cases taken

/-- One step at the desk is a turn of the writer. -/
theorem Turned.step (free : s.asking = none) (stepped : s.work.step = some work) :
    ∃ after, Turned s after work := by
  rw [Workplace.step] at stepped
  split at stepped
  next idle => exact Turned.takeNext free idle stepped
  next event left phase =>
    exact ⟨s.worked work, ⟨Leads.here.step (.works (.attempt phase stepped)), rfl, rfl⟩, rfl, free,
      fun _ _ here => here⟩
  next event settlement phase =>
    cases stepped
    exact ⟨_, ⟨Leads.here.step (.works (.count phase)), rfl, rfl⟩, rfl, free,
      fun _ _ here => here⟩
  next => cases stepped
  next => cases stepped

/-- Any number of steps at the desk are turns of the writer. -/
theorem Turned.steps (free : s.asking = none) (count : Nat) :
    ∃ after, Turned s after (Workplace.steps count s.work) := by
  induction count generalizing s with
  | zero => exact ⟨s, .nothing free⟩
  | succ count ih =>
    rw [Workplace.steps]
    split
    next => exact ⟨s, .nothing free⟩
    next work stepped =>
      obtain ⟨middle, first⟩ := Turned.step free stepped
      obtain ⟨after, later⟩ := ih first.free
      rw [first.work] at later
      exact ⟨after, first.reaches.trans later.reaches, later.work, later.free,
        fun place call here => later.calls place call (first.calls place call here)⟩

/-- A writer that works as long as it can has had its turn. -/
theorem Turned.run (free : s.asking = none) : ∃ after, Turned s after s.work.run :=
  Turned.steps free _

/-! ## A capture's turn -/

/-- A push that was decided is counted, if there is anything to count. -/
theorem settlePush_leads {place : Nat} {event : Event} {result : Channel Event × Channel.PushPhase}
    (captures : s.Captures (s.onLine (s.line.pushed place event result)))
    (known : place < s.line.calls.length) :
    ∃ line, Leads s (s.onLine line) ∧ line.channel = (Channel.settlePush result).1 := by
  have decided := Leads.here.step (.captures captures)
  obtain ⟨channel, phase⟩ := result
  cases phase with
  | accepted =>
    have here := List.getElem?_set_self (a := Channel.Call.push event .counting) known
    exact ⟨_, decided.step (.captures (.push place here (.countPushed here))), rfl⟩
  | waiting | refused => exact ⟨_, decided, rfl⟩

/-! ## Turns of the one who stops -/

/-- The channel is closed from the first section to the last. -/
theorem close_leads (running : s.stage = .running) :
    ∃ line, Leads s ((s.onLine line).staged .draining) ∧
      line.channel = s.line.channel.close.1 := by
  have known : s.line.calls.length < (s.line.calls ++ [Channel.Call.close none]).length := by simp
  have begun : Leads s _ := Leads.here.step (.stops (.stop running))
  have closed := begun.step (.stops (.close rfl (.close List.getElem?_concat_length)))
  exact ⟨_, closed.step (.stops (.drain rfl (List.getElem?_set_self known))), rfl⟩

/-- After what was in the channel has been given up. -/
def gaveUp (s : Session σ) (line : Calls Event) : Session σ :=
  { s with
    line := line
    stats.lost := s.stats.lost + s.line.channel.discard.2 }

/-- What is in the channel is given up from the first section to the last. -/
theorem discard_leads (draining : s.stage = .draining) :
    ∃ line, Leads s ((s.gaveUp line).staged .lingering) ∧
      line.channel = s.line.channel.discard.1 := by
  have known : s.line.calls.length
      < (s.line.calls ++ [Channel.Call.discard .clearing]).length := by simp
  have begun : Leads s _ := Leads.here.step (.stops (.giveUp draining))
  have cleared := begun.step (.stops (.discard rfl (.clear List.getElem?_concat_length)))
  have counted := cleared.step (.stops (.discard rfl
    (.countDiscarded (List.getElem?_set_self known))))
  exact ⟨_, counted.step (.stops (.tally rfl
    (List.getElem?_set_self (Nat.lt_of_lt_of_eq known List.length_set.symm)))), rfl⟩

/-- The counters are read with nothing in between. -/
theorem load_leads {timedOut : Bool} (leaving : s.stage = .leaving timedOut) {count : Nat}
    (within : count ≤ s.counts.inOrder.length) :
    Leads s (s.staged (.reading timedOut (s.counts.inOrder.take count))) := by
  induction count with
  | zero => exact Leads.here.step (.stops (.look leaving))
  | succ count ih =>
    have length : (s.counts.inOrder.take count).length = count :=
      List.length_take_of_le (Nat.le_of_succ_le within)
    have found : s.counts.inOrder[(s.counts.inOrder.take count).length]?
        = some s.counts.inOrder[count] := by
      rw [length]
      exact List.getElem?_eq_getElem within
    rw [List.take_add_one, List.getElem?_eq_getElem within]
    exact (ih (Nat.le_of_succ_le within)).step (.stops (.load rfl found))

/-- The one who stops reads the counters and reports, undisturbed. -/
theorem report_leads {timedOut : Bool} (leaving : s.stage = .leaving timedOut) :
    Leads s (s.staged (.stopped ⟨s.counts, timedOut, s.directory⟩)) := by
  have loaded := load_leads leaving (Nat.le_refl _)
  rw [List.take_length] at loaded
  exact loaded.step (.stops (.report rfl))

end Turns

/-! ## Recorders -/

/-- A session that stands where a recorder with a writer stands, on a tree. -/
structure Shows (s : Session (OpenStore × FileTree)) (recorder : Recorder) (tree : FileTree) :
    Prop where
  free : s.asking = none
  same : ∃ desk store, recorder.back = some (desk, store) ∧
    s.work = ⟨desk, recorder.channel, recorder.stats, (store, tree)⟩

variable {s : Session (OpenStore × FileTree)} {recorder : Recorder} {tree : FileTree}

/-- The recorder has the channel of the session. -/
theorem Shows.channel (shows : s.Shows recorder tree) : s.line.channel = recorder.channel := by
  obtain ⟨desk, store, -, same⟩ := shows.same
  exact congrArg Workplace.channel same

/-- The recorder has the counts of the session. -/
theorem Shows.counts (shows : s.Shows recorder tree) : s.counts = recorder.counts := by
  obtain ⟨desk, store, -, same⟩ := shows.same
  have stats : s.stats = recorder.stats := congrArg Workplace.stats same
  rw [Session.counts, stats, shows.channel]
  rfl

/-- The recorder's writer is done when that of the session is. -/
theorem Shows.isDone (shows : s.Shows recorder tree) : s.desk.isDone = recorder.isDone := by
  obtain ⟨desk, store, back, same⟩ := shows.same
  have desk : s.desk = desk := congrArg Workplace.desk same
  rw [Recorder.isDone, back, desk]

/-- A session whose channel has changed shows the recorder with that channel. -/
theorem Shows.onLine (shows : s.Shows recorder tree) {line : Calls Event}
    {channel : Channel Event} (same : line.channel = channel) :
    (s.onLine line).Shows { recorder with channel := channel } tree := by
  obtain ⟨free, desk, store, back, stands⟩ := shows
  refine ⟨free, desk, store, back, ?_⟩
  rw [← same]
  exact congrArg (fun work : Workplace _ => { work with channel := line.channel }) stands

/-- The recorder knows nothing of how far the pipeline has been stopped. -/
theorem Shows.staged (shows : s.Shows recorder tree) (stage : StopStage) :
    (s.staged stage).Shows recorder tree :=
  ⟨shows.free, shows.same⟩

/-- A recorder that is abandoned gives up what was in its channel. -/
theorem Shows.gaveUp (shows : s.Shows recorder tree) {line : Calls Event}
    (channel : line.channel = s.line.channel.discard.1) :
    (s.gaveUp line).Shows (Pipeline.abandon recorder) tree := by
  have same := shows.channel
  obtain ⟨free, desk, store, back, stands⟩ := shows
  refine ⟨free, desk, store, back, ?_⟩
  rw [same] at channel
  have work : (s.gaveUp line).work = { s.work with
      channel := line.channel
      stats := { s.work.stats with lost := s.work.stats.lost + s.line.channel.discard.2 } } := rfl
  rw [work, stands, channel, same]
  rfl

/-- The writer of a recorder works until it has to wait. -/
theorem Shows.work (shows : s.Shows recorder tree) :
    ∃ after, Reaches s after ∧ after.Shows (recorder.work tree).1 (recorder.work tree).2 ∧
      s.Leaves after := by
  obtain ⟨free, desk, store, back, same⟩ := shows
  obtain ⟨after, turned⟩ := Turned.run free
  have worked : recorder.work tree =
      (⟨after.work.channel, after.work.stats, some (after.work.desk, after.work.store.1)⟩,
        after.work.store.2) := by
    rw [Recorder.work, back, turned.work, same]
  rw [worked]
  exact ⟨after, turned.reaches, ⟨turned.free, _, _, rfl, rfl⟩, turned.calls⟩

/-- A hook looks at the identity of a message. -/
theorem Shows.sighted (shows : s.Shows recorder tree) (malformed : Bool) :
    ∃ after, Reaches s after ∧
      after.Shows { recorder with stats := recorder.stats.sighted malformed } tree := by
  cases malformed with
  | false => exact ⟨s, ⟨.here, rfl, rfl⟩, shows⟩
  | true =>
    obtain ⟨free, desk, store, back, same⟩ := shows
    refine ⟨_, ⟨Leads.here.step (.captures .misread), rfl, rfl⟩, free, desk, store, back, ?_⟩
    exact congrArg (fun work : Workplace _ => { work with stats := work.stats.sighted true }) same

/-- A hook hands in an event.  If it has to wait, the writer has its turn in between. -/
theorem Shows.push (shows : s.Shows recorder tree) (event : Event) :
    ∃ after, Reaches s after ∧
      after.Shows (recorder.push tree event).2.1 (recorder.push tree event).2.2 := by
  have begun : Leads s (s.onLine (s.line.begin (.push event .entering))) :=
    Leads.here.step (.captures (.begin event))
  have here : (s.line.calls ++ [Channel.Call.push event .entering])[s.line.calls.length]?
      = some (.push event .entering) := List.getElem?_concat_length
  have known : s.line.calls.length
      < (s.line.calls ++ [Channel.Call.push event .entering]).length := by simp
  have enters : (s.onLine (s.line.begin (.push event .entering))).Captures
      (s.onLine ((s.line.begin (.push event .entering)).pushed s.line.calls.length event
        (recorder.channel.enter event))) := by
    rw [← shows.channel]
    exact .push s.line.calls.length here (.enter here)
  unfold Recorder.push
  split
  next same waits =>
    have unchanged : same = recorder.channel := by
      have pushes := recorder.channel.enter_pushes event
      rw [waits] at pushes
      cases pushes
      rfl
    rw [waits, unchanged] at enters
    -- A push that has to wait lets the writer work, and is then woken because its time is up.
    have waiting := begun.step (.captures enters)
    have shown : Shows (s.onLine ((s.line.begin (.push event .entering)).turn recorder.channel
      s.line.calls.length (.push event .waiting))) recorder tree := shows.onLine rfl
    obtain ⟨after, worked, stands, calls⟩ := shown.work
    have stays := calls s.line.calls.length _ (List.getElem?_set_self known)
    obtain ⟨known, -⟩ := List.getElem?_eq_some_iff.1 stays
    have resumes : after.Captures (after.onLine (after.line.pushed s.line.calls.length event
        ((recorder.work tree).1.channel.resume event true))) := by
      rw [← stands.channel]
      exact .push s.line.calls.length stays (.resume true stays)
    obtain ⟨line, leads, channel⟩ := settlePush_leads resumes known
    exact ⟨_, ⟨(waiting.trans worked.leads).trans leads, worked.stage, worked.directory⟩,
      stands.onLine channel⟩
  next decided notWaiting =>
    obtain ⟨line, leads, channel⟩ := settlePush_leads enters known
    exact ⟨_, ⟨begun.trans leads, rfl, rfl⟩, shows.onLine channel⟩

/-- A session that stands where the recorder at a place stands. -/
def ShowsAt (s : Session (OpenStore × FileTree)) (recording : Recording) (place : Nat) : Prop :=
  ∃ recorder, recording.recorders[place]? = some recorder ∧ s.Shows recorder recording.tree

variable {recording : Recording} {place : Nat}

/-- When the writer at the place works, the session takes the same turn. -/
theorem ShowsAt.workAt (shows : s.ShowsAt recording place) :
    ∃ after, Reaches s after ∧ after.ShowsAt (recording.workAt place) place := by
  obtain ⟨recorder, here, shows⟩ := shows
  obtain ⟨known, -⟩ := List.getElem?_eq_some_iff.1 here
  obtain ⟨after, reaches, stands, -⟩ := shows.work
  rw [Recording.workAt, here]
  exact ⟨after, reaches, _, List.getElem?_set_self known, stands⟩

/-- A capture at the place is a schedule of the session. -/
theorem ShowsAt.capture (shows : s.ShowsAt recording place) (direction : Direction)
    (message : Message) :
    ∃ after, Reaches s after ∧
      after.ShowsAt (recording.capture place direction message).2.2 place := by
  obtain ⟨recorder, here, shows⟩ := shows
  obtain ⟨known, -⟩ := List.getElem?_eq_some_iff.1 here
  obtain ⟨middle, sees, stands⟩ :=
    shows.sighted (direction.sight message.headers recording.ids).malformed
  rw [Recording.capture, here]
  obtain ⟨after, pushes, stands⟩ := stands.push
    ⟨({ message with headers := (direction.sight message.headers recording.ids).headers } :
      Message).snapshot, (direction.sight message.headers recording.ids).causality, direction,
      recording.clock⟩
  exact ⟨after, sees.trans pushes, _, List.getElem?_set_self known, stands⟩

/-- The recorder at the place has changed, and the session with it. -/
theorem ShowsAt.modify (shows : s.ShowsAt recording place) {after : Session (OpenStore × FileTree)}
    {change : Recorder → Recorder}
    (changed : ∀ recorder, s.Shows recorder recording.tree →
      after.Shows (change recorder) recording.tree) :
    after.ShowsAt (recording.modify place change) place := by
  obtain ⟨recorder, here, shows⟩ := shows
  refine ⟨change recorder, ?_, changed recorder shows⟩
  rw [Recording.modify, List.getElem?_modify_eq, here]
  rfl

/-- The recorder at the place knows nothing of the stage either. -/
theorem ShowsAt.staged (shows : s.ShowsAt recording place) (stage : StopStage) :
    (s.staged stage).ShowsAt recording place := by
  obtain ⟨recorder, here, shows⟩ := shows
  exact ⟨recorder, here, shows.staged stage⟩

/-! ## Stopping -/

/-- The channel ends, and the writer has its turn. -/
theorem ShowsAt.drain (shows : s.ShowsAt recording place) (running : s.stage = .running) :
    ∃ after, Leads s after ∧ after.ShowsAt (Pipeline.drain recording place) place ∧
      after.stage = .draining ∧ after.directory = s.directory := by
  obtain ⟨line, closes, closed⟩ := close_leads running
  have ended : ShowsAt _ (recording.modify place fun recorder =>
      { recorder with channel := recorder.channel.close.1 }) place :=
    shows.modify fun recorder shows => by
      rw [← shows.channel]
      exact (shows.onLine closed).staged .draining
  obtain ⟨after, worked, stands⟩ := ended.workAt
  exact ⟨after, closes.trans worked.leads, stands, worked.stage, worked.directory⟩

/-- What is still in the channel is given up, and the writer has its turn. -/
theorem ShowsAt.abandon (shows : s.ShowsAt recording place) (draining : s.stage = .draining) :
    ∃ after, Leads s after ∧
      after.ShowsAt ((recording.modify place Pipeline.abandon).workAt place) place ∧
      after.stage = .lingering ∧ after.directory = s.directory := by
  obtain ⟨line, discards, channel⟩ := discard_leads draining
  have abandoned : ShowsAt _ (recording.modify place Pipeline.abandon) place :=
    shows.modify fun recorder shows => (shows.gaveUp channel).staged .lingering
  obtain ⟨after, worked, stands⟩ := abandoned.workAt
  exact ⟨after, discards.trans worked.leads, stands, worked.stage, worked.directory⟩

end Session

namespace Pipeline

/-- What a start leaves at its place is a session that has just begun. -/
theorem start_showsAt {pipeline running : Pipeline} {traffic started : Traffic}
    {source : StoreSource} {thread : Except String Unit}
    (begun : pipeline.start traffic source thread = (.ok (), running, started)) :
    ∃ run store, running.run = some run ∧
      (Session.start pipeline.config.channelCapacity pipeline.config.channelPolicy
        pipeline.config.commitAttempts store run.directory).ShowsAt started.recording
          run.recorder := by
  obtain ⟨store, directory, tree, -, rfl, rfl⟩ := start_eq_ok begun
  exact ⟨_, (store, tree), rfl, _, List.getElem?_concat_length, rfl, _, _, rfl, rfl⟩

/-- What a session says of the recorder that it shows. -/
theorem showsAt_recorderAt {s : Session (OpenStore × FileTree)} {traffic : Traffic} {place : Nat}
    (shows : s.ShowsAt traffic.recording place) :
    s.counts = (traffic.recorderAt place).counts ∧
      s.desk.isDone = (traffic.recorderAt place).isDone := by
  obtain ⟨recorder, here, shows⟩ := shows
  rw [Traffic.recorderAt, here]
  exact ⟨shows.counts, shows.isDone⟩

/-- When no one waits for the writer any more, the counts are read once the hooks are gone. -/
theorem leave_leads {s : Session (OpenStore × FileTree)} {traffic : Traffic} {run : Run}
    {timedOut : Bool} (shows : s.ShowsAt traffic.recording run.recorder)
    (leaving : s.stage = .leaving timedOut) (directory : s.directory = run.directory) :
    let after := (traffic.removeHooks run.hooks).2
    ∃ later, Session.Leads s later ∧
      later.stage = .stopped ⟨(after.recorderAt run.recorder).counts, timedOut, run.directory⟩ ∧
      later.ShowsAt after.recording run.recorder := by
  intro after
  have still : s.ShowsAt after.recording run.recorder := shows
  refine ⟨_, Session.report_leads leaving, ?_, still.staged _⟩
  rw [← (showsAt_recorderAt still).1, ← directory]
  rfl

/-- A stop is some sections of the session of its run, and its report is the one that the
session ends with. -/
theorem stop_leads {pipeline stopped : Pipeline} {traffic after : Traffic} {report : Report}
    {run : Run} {s : Session (OpenStore × FileTree)} (running : pipeline.run = some run)
    (shows : s.ShowsAt traffic.recording run.recorder) (going : s.stage = .running)
    (directory : s.directory = run.directory)
    (stops : pipeline.stop traffic = (.ok report, stopped, after)) :
    ∃ later, Session.Leads s later ∧ later.stage = .stopped report ∧
      later.ShowsAt after.recording run.recorder := by
  obtain ⟨drained, drains, stands, draining, same⟩ := shows.drain going
  have ended : drained.ShowsAt (traffic.record (drain · run.recorder)).recording run.recorder :=
    stands
  have isDone := (showsAt_recorderAt ended).2
  rw [Pipeline.stop, phase_of_run running] at stops
  cases stops
  cases done : ((traffic.record (drain · run.recorder)).recorderAt run.recorder).isDone with
  | true =>
    simp only [Bool.not_true, Bool.false_eq_true, if_false]
    have leaves := drains.step (.stops (.inTime draining (isDone.trans done)))
    obtain ⟨later, leads, reported⟩ := leave_leads (ended.staged _) rfl (same.trans directory)
    exact ⟨later, leaves.trans leads, reported⟩
  | false =>
    simp only [Bool.not_false, if_true]
    obtain ⟨lingering, abandons, stands, linger, there⟩ := ended.abandon draining
    have leaves := (drains.trans abandons).step (.stops (.leave linger))
    have gone : (lingering.staged (.leaving true)).ShowsAt
        ((traffic.record (drain · run.recorder)).record fun recording =>
          (recording.modify run.recorder abandon).workAt run.recorder).recording
        run.recorder := stands.staged _
    obtain ⟨later, leads, reported⟩ := leave_leads gone rfl (there.trans (same.trans directory))
    exact ⟨later, leaves.trans leads, reported⟩

end Pipeline

end CausalTrace
