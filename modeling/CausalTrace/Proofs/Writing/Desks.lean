import CausalTrace.Proofs.Storage.Logs
import CausalTrace.Proofs.Writing.Batches
import CausalTrace.Recording

/-!
# A writer at its desk over a log

A desk takes events from a channel, commits the batch of each and counts it.  As long as no event
has been let go, the log holds the batches of a new writer for the events that were counted, and of
one more while it waits to be counted.  Each section of the work preserves that, so it holds
whenever the writer pauses.
-/

namespace CausalTrace

/-- The event that is stored and has still to be counted, if there is one. -/
def DeskPhase.uncounted : DeskPhase → List Event
  | .counting event .stored => [event]
  | _ => []

namespace Workplace

/-- An event was let go. -/
def HasFailed {σ : Type} (work : Workplace σ) : Prop :=
  0 < work.stats.failed ∨ ∃ event failure, work.desk.phase = .counting event (.abandoned failure)

/-- A workplace over the log of a directory, where the batches of the counted events were stored
behind earlier ones. -/
structure LogsTo (directory : String) (earlier : List Batch) (attempts : Nat)
    (counted : List Event) (work : Workplace (OpenStore × FileTree)) : Prop where
  writer : work.desk.writer = (Writer.new attempts).acknowledgedAll counted
  persisted : work.stats.persisted = counted.length
  survives : work.desk.phase ≠ .died ∧ ∀ event, work.desk.phase ≠ .counting event .lost
  keeps : ∃ store, work.store.1 = .log store ∧ store.directory = directory ∧
    ∃ frames, LogStore.Keeps (store, work.store.2)
      (earlier ++ (Writer.new attempts).batches (counted ++ work.desk.phase.uncounted)) frames

/-- The same for some counted events, unless one was let go. -/
def Follows (directory : String) (earlier : List Batch) (attempts : Nat)
    (work : Workplace (OpenStore × FileTree)) : Prop :=
  work.HasFailed ∨ ∃ counted, LogsTo directory earlier attempts counted work

/-- What a commit of a log store comes to. -/
theorem commit_log (store : LogStore) (tree : FileTree) (batch : Batch) :
    Store.commit (OpenStore.log store, tree) batch =
      (CommitAnswer.ofExcept (store.commit tree batch).1,
        .log (store.commit tree batch).2.1, (store.commit tree batch).2.2) :=
  rfl

/-- A log is ready whenever a writer arrives. -/
theorem arrive_log {disk : OpenStore × FileTree} {store : LogStore} (opened : disk.1 = .log store) :
    Store.arrive disk = disk := by
  obtain ⟨kind, tree⟩ := disk
  subst opened
  rfl

/-- Nothing is left to be done when a log is closed. -/
theorem close_log {disk : OpenStore × FileTree} {store : LogStore} (opened : disk.1 = .log store) :
    (Store.close disk).2 = disk := by
  obtain ⟨kind, tree⟩ := disk
  subst opened
  rfl

section Sections

variable {directory : String} {earlier : List Batch} {attempts : Nat} {counted : List Event}
  {work after : Workplace (OpenStore × FileTree)}

/-- Turning to something else, with nothing stored that is still to be counted. -/
theorem LogsTo.turn (logs : LogsTo directory earlier attempts counted work)
    (before : work.desk.phase.uncounted = []) (writer : after.desk.writer = work.desk.writer)
    (stats : after.stats = work.stats) (store : after.store = work.store)
    (phase : after.desk.phase = .finished ∨
      ∃ event left, after.desk.phase = .committing event left) :
    LogsTo directory earlier attempts counted after where
  writer := writer.trans logs.writer
  persisted := by rw [stats, logs.persisted]
  survives := by
    rcases phase with here | ⟨event, left, here⟩ <;> rw [here] <;> exact ⟨nofun, nofun⟩
  keeps := by
    have nothing : after.desk.phase.uncounted = [] := by
      rcases phase with here | ⟨event, left, here⟩ <;> rw [here] <;> rfl
    have keeps := logs.keeps
    rw [before] at keeps
    rw [store, nothing]
    exact keeps

/-- A writer that takes the next event follows it. -/
theorem Follows.takeNext (follows : Follows directory earlier attempts work)
    (idle : work.desk.phase = .idle) (stepped : work.takeNext = some after) :
    Follows directory earlier attempts after := by
  have before : work.desk.phase.uncounted = [] := by rw [idle]; rfl
  have quiet {found : Workplace (OpenStore × FileTree)} (failed : work.HasFailed)
      (stats : found.stats = work.stats) : Follows directory earlier attempts found := by
    rcases failed with failed | ⟨event, failure, counting⟩
    · exact .inl (.inl (by rw [stats]; exact failed))
    · rw [idle] at counting
      cases counting
  unfold Workplace.takeNext at stepped
  split at stepped
  next channel event received =>
    cases stepped
    rcases follows with failed | ⟨counted, logs⟩
    · exact quiet failed rfl
    · obtain ⟨store, opened, -⟩ := logs.keeps
      exact .inr ⟨counted, logs.turn before rfl rfl (arrive_log opened) (.inr ⟨_, _, rfl⟩)⟩
  next channel ended =>
    cases stepped
    rcases follows with failed | ⟨counted, logs⟩
    · exact quiet failed rfl
    · obtain ⟨store, opened, -⟩ := logs.keeps
      exact .inr ⟨counted, logs.turn before rfl rfl (close_log opened) (.inl rfl)⟩
  next => cases stepped
  next => cases stepped

/-- An attempt that is acknowledged puts the event into the log; one that fails leaves the log. -/
theorem Follows.attempt {event : Event} {left : Nat}
    (follows : Follows directory earlier attempts work)
    (committing : work.desk.phase = .committing event left)
    (stepped : work.attempt event left = some after) :
    Follows directory earlier attempts after := by
  have before : work.desk.phase.uncounted = [] := by rw [committing]; rfl
  unfold Workplace.attempt at stepped
  split at stepped
  next => cases stepped
  rcases follows with (failed | ⟨other, failure, counting⟩) | ⟨counted, logs⟩
  · refine .inl (.inl ?_)
    split at stepped
    next => cases stepped; exact failed
    next => cases stepped; exact failed
    next => split at stepped <;> cases stepped <;> exact failed
  · rw [committing] at counting
    cases counting
  · obtain ⟨store, opened, here, frames, keeps⟩ := logs.keeps
    have disk : work.store = (.log store, work.store.2) := Prod.ext opened rfl
    rw [before, List.append_nil] at keeps
    rw [disk, commit_log] at stepped
    -- A log that refuses a batch is left as it was, so the attempt can be made again.
    cases committed : store.commit work.store.2 (work.desk.writer.batch event) with
    | mk result taken =>
      rw [committed] at stepped
      cases result with
      | ok _ =>
        cases stepped
        obtain ⟨frame, further⟩ := keeps.commit (List.cons_ne_nil _ _) committed
        have same := LogStore.commit_same committed
        refine .inr ⟨counted, logs.writer, logs.persisted, ⟨nofun, nofun⟩, taken.1, rfl,
          same.1.trans here, frames ++ [frame], ?_⟩
        change LogStore.Keeps taken
          (earlier ++ (Writer.new attempts).batches (counted ++ [event])) (frames ++ [frame])
        rw [Writer.batches_concat, ← logs.writer, ← List.append_assoc]
        exact further
      | error failure =>
        cases LogStore.commit_error committed
        cases left with
        | zero =>
          cases stepped
          exact .inl (.inr ⟨event, failure, rfl⟩)
        | succ left =>
          cases stepped
          exact .inr ⟨counted, logs.turn before rfl rfl disk.symm (.inr ⟨_, _, rfl⟩)⟩

/-- Counting an event changes neither the log nor what was written to it. -/
theorem Follows.count {event : Event} {settlement : Settlement}
    (follows : Follows directory earlier attempts work)
    (counting : work.desk.phase = .counting event settlement) :
    Follows directory earlier attempts (work.count event settlement) := by
  rcases follows with failed | ⟨counted, logs⟩
  · refine .inl (.inl ?_)
    rcases failed with failed | ⟨other, failure, letGo⟩
    · cases settlement with
      | stored => exact failed
      | abandoned failure => exact Nat.lt_succ_of_lt failed
      | lost => exact failed
    · rw [counting] at letGo
      cases letGo
      exact Nat.succ_pos _
  · cases settlement with
    | stored =>
      obtain ⟨store, opened, here, frames, keeps⟩ := logs.keeps
      refine .inr ⟨counted ++ [event], ?_, ?_, ⟨nofun, nofun⟩, store, opened, here, frames, ?_⟩
      · rw [Writer.acknowledgedAll_concat, ← logs.writer]
        rfl
      · change work.stats.persisted + 1 = _
        rw [logs.persisted, List.length_append, List.length_singleton]
      · rw [counting] at keeps
        change LogStore.Keeps (store, work.store.2)
          (earlier ++ (Writer.new attempts).batches (counted ++ [event] ++ [])) frames
        rw [List.append_nil]
        exact keeps
    | abandoned failure => exact .inl (.inl (Nat.succ_pos _))
    | lost => exact absurd counting (logs.survives.2 event)

/-- Every section of the work preserves it. -/
theorem Follows.step (follows : Follows directory earlier attempts work)
    (stepped : work.step = some after) : Follows directory earlier attempts after := by
  unfold Workplace.step at stepped
  split at stepped
  next idle => exact follows.takeNext idle stepped
  next event left committing => exact follows.attempt committing stepped
  next event settlement counting =>
    cases stepped
    exact follows.count counting
  next => cases stepped
  next => cases stepped

/-- A writer follows its events through any number of steps. -/
theorem Follows.steps (follows : Follows directory earlier attempts work) (count : Nat) :
    Follows directory earlier attempts (Workplace.steps count work) := by
  induction count generalizing work with
  | zero => exact follows
  | succ count ih =>
    rw [Workplace.steps]
    split
    next => exact follows
    next after stepped => exact ih (follows.step stepped)

/-- A writer follows its events until it can do no more. -/
theorem Follows.run (follows : Follows directory earlier attempts work) :
    Follows directory earlier attempts work.run :=
  follows.steps _

end Sections

end Workplace

end CausalTrace
