import CausalTrace.Proofs.Bus.Stepping
import CausalTrace.Proofs.Writing.Desks

/-!
# One recorder writes to a log

Recorders share one tree of files, and a recorder keeps its place after its writer has finished.  A
recorder whose writer is done never touches a file again, so as long as one recorder writes and the
others are done, the log of the one follows its own desk, through whatever traffic there is.
-/

namespace CausalTrace

namespace Recorder

/-- A recorder without a writer that could still do something. -/
def Quiet (recorder : Recorder) : Prop :=
  recorder.isDone = true

/-- A recorder whose writer follows its events into the log of a directory. -/
def Follows (directory : String) (earlier : List Batch) (attempts : Nat) (recorder : Recorder)
    (tree : FileTree) : Prop :=
  ∃ desk store, recorder.back = some (desk, store) ∧
    Workplace.Follows directory earlier attempts
      ⟨desk, recorder.channel, recorder.stats, (store, tree)⟩

/-! ## Recorders that are done -/

/-- A writer that is done takes no step. -/
theorem step_done {σ : Type} [Store σ] {work : Workplace σ} (done : work.desk.isDone = true) :
    work.step = none := by
  unfold Workplace.step
  simp only [Desk.isDone, Bool.or_eq_true, beq_iff_eq] at done
  rcases done with finished | died
  · rw [finished]
  · rw [died]

/-- A writer that is done stays as it is, however often it is asked to go on. -/
theorem steps_done {σ : Type} [Store σ] {work : Workplace σ} (done : work.desk.isDone = true)
    (count : Nat) : Workplace.steps count work = work := by
  cases count with
  | zero => rfl
  | succ count => rw [Workplace.steps, step_done done]

/-- A quiet recorder that is let work does nothing. -/
theorem Quiet.work {recorder : Recorder} (quiet : recorder.Quiet) (tree : FileTree) :
    recorder.work tree = (recorder, tree) := by
  obtain ⟨channel, stats, back⟩ := recorder
  cases back with
  | none => rfl
  | some desk =>
    have done : desk.1.isDone = true := quiet
    simp only [Recorder.work, Workplace.run]
    rw [steps_done done]

/-- A push to a recorder that is done reaches its channel only. -/
theorem Quiet.push {recorder : Recorder} (quiet : recorder.Quiet) (tree : FileTree)
    (event : Event) :
    (recorder.push tree event).2.1.back = recorder.back ∧
      (recorder.push tree event).2.2 = tree := by
  unfold Recorder.push
  split
  · rw [quiet.work tree]
    exact ⟨rfl, rfl⟩
  · exact ⟨rfl, rfl⟩

/-- Only its writer makes a recorder quiet, so the rest of it may change. -/
theorem Quiet.of_back {recorder other : Recorder} (quiet : recorder.Quiet)
    (same : other.back = recorder.back) : other.Quiet := by
  unfold Quiet isDone at quiet ⊢
  rw [same]
  exact quiet

/-- A recorder that is done and captures a message is done, and touches no file. -/
theorem Quiet.sighted_push {recorder : Recorder} (quiet : recorder.Quiet) (tree : FileTree)
    (malformed : Bool) (event : Event) :
    let captured :=
      ({ recorder with stats := recorder.stats.sighted malformed } : Recorder).push tree event
    captured.2.1.Quiet ∧ captured.2.2 = tree := by
  have sighted : ({ recorder with stats := recorder.stats.sighted malformed } : Recorder).Quiet :=
    quiet.of_back rfl
  obtain ⟨back, untouched⟩ := sighted.push tree event
  exact ⟨sighted.of_back back, untouched⟩

/-! ## The recorder that writes -/

section Writing

variable {directory : String} {earlier : List Batch} {attempts : Nat} {recorder : Recorder}
  {tree : FileTree}

/-- A writer that works goes on following its events. -/
theorem Follows.work (follows : recorder.Follows directory earlier attempts tree) :
    (recorder.work tree).1.Follows directory earlier attempts (recorder.work tree).2 := by
  obtain ⟨desk, store, back, follows⟩ := follows
  have ran := follows.run
  rw [Recorder.work, back]
  exact ⟨_, _, rfl, ran⟩

/-- What is in the channel makes no difference, and neither do the other counts. -/
theorem Follows.of_same (follows : recorder.Follows directory earlier attempts tree)
    {other : Recorder} (back : other.back = recorder.back)
    (failed : other.stats.failed = recorder.stats.failed)
    (persisted : other.stats.persisted = recorder.stats.persisted) :
    other.Follows directory earlier attempts tree := by
  obtain ⟨desk, store, here, follows⟩ := follows
  refine ⟨desk, store, back.trans here, ?_⟩
  rcases follows with (letGo | letGo) | ⟨counted, logs⟩
  · exact .inl (.inl (failed ▸ letGo))
  · exact .inl (.inr letGo)
  · exact .inr ⟨counted, logs.writer, persisted.trans logs.persisted, logs.survives, logs.keeps⟩

/-- What a hook counts as seen is no matter to the writer. -/
theorem Follows.sighted (follows : recorder.Follows directory earlier attempts tree)
    (malformed : Bool) :
    ({ recorder with stats := recorder.stats.sighted malformed } : Recorder).Follows
      directory earlier attempts tree := by
  refine follows.of_same rfl ?_ ?_ <;> cases malformed <;> rfl

/-- A push adds to the events that the writer follows. -/
theorem Follows.push (follows : recorder.Follows directory earlier attempts tree) (event : Event) :
    (recorder.push tree event).2.1.Follows directory earlier attempts
      (recorder.push tree event).2.2 := by
  unfold Recorder.push
  split
  · exact follows.work.of_same rfl rfl rfl
  · exact follows.of_same rfl rfl rfl

end Writing

end Recorder

namespace Recording

/-- The recorder at a place writes to the log of a directory, and all others are done. -/
structure LogsAt (place : Nat) (directory : String) (earlier : List Batch) (attempts : Nat)
    (recording : Recording) : Prop where
  writes : ∃ recorder, recording.recorders[place]? = some recorder ∧
    recorder.Follows directory earlier attempts recording.tree
  quiet : ∀ other, other ≠ place → ∀ recorder, recording.recorders[other]? = some recorder →
    recorder.Quiet

variable {place : Nat} {directory : String} {earlier : List Batch} {attempts : Nat}
  {recording : Recording}

/-- Putting back the recorder that writes. -/
theorem LogsAt.set_writes (logs : LogsAt place directory earlier attempts recording)
    {recorder : Recorder} {tree : FileTree}
    (follows : recorder.Follows directory earlier attempts tree) (ids : IdSource) :
    LogsAt place directory earlier attempts
      { recording with
        recorders := recording.recorders.set place recorder, tree := tree, ids := ids } where
  writes := by
    obtain ⟨former, here, _⟩ := logs.writes
    have known : place < recording.recorders.length := (List.getElem?_eq_some_iff.1 here).1
    exact ⟨recorder, List.getElem?_set_self known, follows⟩
  quiet other elsewhere found present := by
    rw [List.getElem?_set_ne (Ne.symm elsewhere)] at present
    exact logs.quiet other elsewhere found present

/-- Putting back one that is done. -/
theorem LogsAt.set_quiet (logs : LogsAt place directory earlier attempts recording) {other : Nat}
    (elsewhere : other ≠ place) {recorder : Recorder} (quiet : recorder.Quiet) {tree : FileTree}
    (untouched : tree = recording.tree) (ids : IdSource) :
    LogsAt place directory earlier attempts
      { recording with
        recorders := recording.recorders.set other recorder, tree := tree, ids := ids } where
  writes := by
    obtain ⟨writing, here, follows⟩ := logs.writes
    exact ⟨writing, (List.getElem?_set_ne elsewhere).trans here, untouched ▸ follows⟩
  quiet third apart found present := by
    by_cases same : third = other
    · subst same
      obtain ⟨known, value⟩ := List.getElem?_eq_some_iff.1 present
      rw [List.getElem_set_self] at value
      exact value ▸ quiet
    · rw [List.getElem?_set_ne (Ne.symm same)] at present
      exact logs.quiet third apart found present

/-- Any writer may work: the one at the place follows, the others are done. -/
theorem LogsAt.workAt (logs : LogsAt place directory earlier attempts recording) (used : Nat) :
    LogsAt place directory earlier attempts (recording.workAt used) := by
  unfold Recording.workAt
  split
  next => exact logs
  next recorder here =>
    by_cases same : used = place
    · subst same
      obtain ⟨writing, found, follows⟩ := logs.writes
      cases here.symm.trans found
      exact logs.set_writes follows.work recording.ids
    · have quiet := logs.quiet used same recorder here
      rw [quiet.work recording.tree]
      exact logs.set_quiet same quiet rfl recording.ids

/-- Any recorder may capture: the others are quiet and touch no file. -/
theorem LogsAt.capture (logs : LogsAt place directory earlier attempts recording) (used : Nat)
    (direction : Direction) (message : Message) :
    LogsAt place directory earlier attempts
      (recording.capture used direction message).2.2 := by
  unfold Recording.capture
  split
  next => exact logs
  next recorder here =>
    by_cases same : used = place
    · subst same
      obtain ⟨writing, found, follows⟩ := logs.writes
      cases here.symm.trans found
      exact logs.set_writes ((follows.sighted _).push _) _
    · obtain ⟨quiet, untouched⟩ := (logs.quiet used same recorder here).sighted_push
        recording.tree _ _
      exact logs.set_quiet same quiet untouched _

/-- Traffic preserves it. -/
theorem LogsAt.invariant (place : Nat) (directory : String) (earlier : List Batch)
    (attempts : Nat) : Recording.Invariant (LogsAt place directory earlier attempts) where
  capture logs used direction message := logs.capture used direction message
  identify logs _ := ⟨logs.writes, logs.quiet⟩
  workAt logs used := logs.workAt used
  tick logs _ := ⟨logs.writes, logs.quiet⟩

/-! ## No recorder writes -/

/-- All recorders are done, and the tree is as it was left. -/
structure Rests (tree : FileTree) (recording : Recording) : Prop where
  quiet : ∀ recorder ∈ recording.recorders, recorder.Quiet
  untouched : recording.tree = tree

/-- Putting back a recorder that is done. -/
theorem Rests.set {tree : FileTree} (rests : Rests tree recording) {recorder : Recorder}
    (quiet : recorder.Quiet) {after : FileTree} (untouched : after = recording.tree)
    (ids : IdSource) :
    Rests tree { recording with
      recorders := recording.recorders.set place recorder, tree := after, ids := ids } where
  quiet other present := by
    rcases List.mem_or_eq_of_mem_set present with before | rfl
    · exact rests.quiet other before
    · exact quiet
  untouched := untouched.trans rests.untouched

/-- Where every writer is done, the files rest when any is let work. -/
theorem Rests.workAt {tree : FileTree} (rests : Rests tree recording) (used : Nat) :
    Rests tree (recording.workAt used) := by
  unfold Recording.workAt
  split
  next => exact rests
  next recorder here =>
    have quiet := rests.quiet recorder (List.mem_of_getElem? here)
    rw [quiet.work recording.tree]
    exact rests.set quiet rfl recording.ids

/-- Where every writer is done, the files rest whatever is captured. -/
theorem Rests.capture {tree : FileTree} (rests : Rests tree recording) (used : Nat)
    (direction : Direction) (message : Message) :
    Rests tree (recording.capture used direction message).2.2 := by
  unfold Recording.capture
  split
  next => exact rests
  next recorder here =>
    obtain ⟨quiet, untouched⟩ :=
      (rests.quiet recorder (List.mem_of_getElem? here)).sighted_push recording.tree _ _
    exact rests.set quiet untouched _

/-- Traffic preserves it. -/
theorem Rests.invariant (tree : FileTree) : Recording.Invariant (Rests tree) where
  capture rests used direction message := rests.capture used direction message
  identify rests _ := ⟨rests.quiet, rests.untouched⟩
  workAt rests used := rests.workAt used
  tick rests _ := ⟨rests.quiet, rests.untouched⟩

end Recording

end CausalTrace
