import CausalTrace.Proofs.Inspect.Overlaid
import CausalTrace.Proofs.Pipeline.Runs

/-!
# Several runs into one directory

Runs that go into one directory one after the other share its log, but the writer of each starts
anew: its numbers begin at one, and it knows none of the message ids that have an entry.  The log
keeps every batch, yet what is read back are the records of the runs laid over each other.  So the
runs keep their records exactly if no two of them stored different records under one number.
-/

namespace CausalTrace

/-- Whoever opens the directory finds no log, or an empty file in its place. -/
def LogStore.Fresh (tree : FileTree) (directory : String) : Prop :=
  ∀ {sync store after}, openIn tree directory sync = (.ok store, after) →
    tree.content store.file = []

/-- Nothing is found in a fresh directory. -/
theorem LogStore.Fresh.finds {tree : FileTree} {directory : String} (fresh : Fresh tree directory) :
    Finds tree directory [] :=
  fun opened => ⟨[], keeps_openIn opened (fresh opened)⟩

namespace Pipeline

/-- Runs into one directory one after the other, with their reports.  Between two runs there
may be other traffic. -/
inductive RunsInTurn (directory : String) (first : Traffic) : List Report → Traffic → Prop where
  | start : RunsInTurn directory first [] first
  | between {reports before after} (prior : RunsInTurn directory first reports before)
      (leads : Traffic.Leads before after) : RunsInTurn directory first reports after
  | run {reports before report after} (prior : RunsInTurn directory first reports before)
      (next : RunsInto directory before report after) :
      RunsInTurn directory first (reports ++ [report]) after

namespace RunsInTurn

variable {directory : String} {first last : Traffic} {reports : List Report}

/-- What runs leave in their directory: the batches of as many events as each report counts. -/
theorem stored (runs : RunsInTurn directory first reports last)
    (quiet : ∀ recorder ∈ first.recording.recorders, recorder.Quiet)
    (fresh : LogStore.Fresh first.recording.tree directory) :
    ∃ history : List (List Event),
      history.map List.length = reports.map (fun report => report.counts.persisted) ∧
      Recording.Rests last.recording.tree last.recording ∧
      LogStore.Finds last.recording.tree directory (history.flatMap (Writer.new 1).batches) ∧
      (reports ≠ [] → LogStore.Written last.recording.tree directory
        (history.flatMap (Writer.new 1).batches)) := by
  induction runs with
  | start => exact ⟨[], rfl, ⟨quiet, rfl⟩, fresh.finds, fun some => absurd rfl some⟩
  | between prior leads ih =>
    obtain ⟨history, counts, rests, finds, written⟩ := ih
    have after := (Recording.Rests.invariant _).of_leads leads rests
    rw [← after.untouched] at finds written
    exact ⟨history, counts, ⟨after.quiet, rfl⟩, finds, written⟩
  | run prior next ih =>
    obtain ⟨history, counts, rests, finds, _⟩ := ih
    obtain ⟨events, count, written, after⟩ := next.stored rests finds
    refine ⟨history ++ [events], ?_, after, ?_, fun _ => ?_⟩
    · rw [List.map_append, List.map_append, counts, List.map_singleton, List.map_singleton, count]
    · rw [List.flatMap_append, List.flatMap_singleton]
      exact written.finds
    · rw [List.flatMap_append, List.flatMap_singleton]
      exact written

/-- Several runs into a directory that was fresh keep all their records, and lead every sent message
id to a record of its own, exactly if of any two runs the records of one are the first records of
the other.  Whatever they stored, the log holds the batches of all runs, and what is listed are
their records laid over each other. -/
theorem findsAll_iff_comparable (runs : RunsInTurn directory first reports last)
    (quiet : ∀ recorder ∈ first.recording.recorders, recorder.Quiet)
    (fresh : LogStore.Fresh first.recording.tree directory) (ran : reports ≠ [])
    (fits : ∀ report ∈ reports, report.counts.persisted < 2 ^ 64) :
    ∃ (history : List (List Event)) (frames : List Bytes) (contents : Contents)
        (recovery : Recovery),
      history.map List.length = reports.map (fun report => report.counts.persisted) ∧
      Log.Frames (history.flatMap (Writer.new 1).batches) frames ∧
      last.recording.tree.read (LogStore.filePath directory) = .ok (Log.head ++ frames.flatten) ∧
      LogSnapshot.read last.recording.tree directory = .ok ⟨directory, contents, recovery⟩ ∧
      Inspect.records contents = .ok (Record.overlaid (history.map Record.numbered)) ∧
      (Inspect.FindsAll contents (history.map Record.numbered) ↔
        Record.Comparable (history.map Record.numbered)) := by
  obtain ⟨history, counts, -, -, written⟩ := runs.stored quiet fresh
  obtain ⟨store, frames, rfl, keeps⟩ := written ran
  have small : ∀ events ∈ history, events.length < 2 ^ 64 := by
    intro events present
    have counted : events.length ∈ history.map List.length := List.mem_map_of_mem present
    rw [counts] at counted
    obtain ⟨report, listed, same⟩ := List.mem_map.1 counted
    exact same ▸ fits report listed
  have fromOne := LaidOver.fromOne_history small
  have laid := LaidOver.of_history small
  have content := FileTree.read_of_file keeps.log.found
  rw [keeps.content] at content
  exact ⟨history, frames, _, _, counts, keeps.written, content, keeps.read,
    Inspect.records_laidOver laid fromOne, Inspect.findsAll_iff laid fromOne⟩

/-! ## Two runs that send one message each -/

/-- An idle bus without any files. -/
def idle : Traffic := .new (.new (.counting 0) 0)

/-- Sends a text to where nobody listens. -/
def send (body : String) : Program :=
  .dispatch ⟨"a", .text body, none⟩ .toOne fun _ => .finish .done

/-- The bus after a run with one message. -/
def afterOne : Traffic := (perform "d" idle (send "first")).2

/-- The bus after another run. -/
def afterTwo : Traffic := (perform "d" afterOne (send "second")).2

/-- The report of a run with one message. -/
def oneStored : Report := ⟨⟨1, 0, 0, 0, 1, 0, 0⟩, false, some "d"⟩

/-- The record of the message of a run. -/
def sent (turn : Nat) (body : String) : Record :=
  ⟨1, MessageId.generated turn, [], "", .sent, 0, "a", "", "", body⟩

/-- The batch of the message of a run. -/
def batch (turn : Nat) (body : String) : Batch :=
  [Writer.recordPut (sent turn body), Index.entry (sent turn body)]

/-- The frame of the message of a run. -/
def frame (turn : Nat) (body : String) : Bytes :=
  (Frame.encode (batch turn body)).toOption.getD []

/-- What the two runs compute. -/
theorem computed :
    (perform "d" idle (send "first")).1.toOption = some oneStored ∧
      (afterOne.recording.tree.read (LogStore.filePath "d")).toOption
        = some (Log.head ++ [frame 0 "first"].flatten) ∧
      ((new .default).start afterOne (.directory "d") (.ok ())).1.toOption = some () ∧
      (perform "d" afterOne (send "second")).1.toOption = some oneStored ∧
      (afterTwo.recording.tree.read (LogStore.filePath "d")).toOption
        = some (Log.head ++ [frame 0 "first", frame 1 "second"].flatten) ∧
      (Frame.encode (batch 0 "first")).toOption = some (frame 0 "first") ∧
      (Frame.encode (batch 1 "second")).toOption = some (frame 1 "second") := by
  decide +kernel

/-- One run has stored one record. -/
theorem runs_afterOne : RunsInTurn "d" idle [oneStored] afterOne :=
  .run .start (.of_perform (by decide +kernel) computed.1 rfl rfl)

/-- A second run has stored a record that is like the first. -/
theorem runs_afterTwo : RunsInTurn "d" idle [oneStored, oneStored] afterTwo :=
  .run runs_afterOne (.of_perform computed.2.2.1 computed.2.2.2.1 rfl rfl)

/-- What a directory whose log was computed is read as. -/
theorem read_computed {tree : FileTree} (batches : List Batch) (frames : List Bytes)
    (encoded : batches.map (fun batch => (Frame.encode batch).toOption) = frames.map some)
    (content : (tree.read (LogStore.filePath "d")).toOption = some (Log.head ++ frames.flatten)) :
    LogSnapshot.read tree "d"
      = .ok ⟨"d", Contents.empty.applyAll batches, ⟨batches.length, 0⟩⟩ :=
  LogStore.read_frames (.of_toOption encoded) (Frame.ok_of_toOption content)

/-- A second run takes the number of the record of the first one.  That record is no longer listed,
and its message id leads to the record of another message. -/
theorem runs_forget_first :
    RunsInTurn "d" idle [oneStored, oneStored] afterTwo ∧
      (sent 0 "first").messageId ≠ (sent 1 "second").messageId ∧
      (∃ snapshot, LogSnapshot.read afterOne.recording.tree "d" = .ok snapshot ∧
        Inspect.lookup snapshot.contents (sent 0 "first").messageId
          = .ok (some (sent 0 "first"))) ∧
      ∃ snapshot, LogSnapshot.read afterTwo.recording.tree "d" = .ok snapshot ∧
        Inspect.records snapshot.contents = .ok [sent 1 "second"] ∧
        Inspect.lookup snapshot.contents (sent 0 "first").messageId
          = .ok (some (sent 1 "second")) := by
  obtain ⟨-, oneRead, -, -, twoRead, first, second⟩ := computed
  have one := read_computed [batch 0 "first"] [frame 0 "first"] (congrArg ([·]) first) oneRead
  have two := read_computed [batch 0 "first", batch 1 "second"] [frame 0 "first", frame 1 "second"]
    (congrArg₂ ([·, ·]) first second) twoRead
  -- what is found under the number does not depend on the stored documents
  have replaced (old new : Bytes) : (Contents.empty.applyAll
      [[⟨Record.partition, RecordId.key 1, old⟩, Index.entry (sent 0 "first")],
        [⟨Record.partition, RecordId.key 1, new⟩, Index.entry (sent 1 "second")]]).get?
      Record.partition (RecordId.key 1) = some new := rfl
  have stored : (Contents.empty.applyAll [batch 0 "first", batch 1 "second"]).get?
      Record.partition (RecordId.key 1) = some (sent 1 "second").encode := replaced _ _
  refine ⟨runs_afterTwo, by decide +kernel, ⟨_, one, ?_⟩, ⟨_, two, ?_, ?_⟩⟩
  · exact Inspect.lookup_entry (by decide +kernel) (by decide +kernel)
  · refine Inspect.records_stored ?_ (by simp) fun record present => ?_
    · decide +kernel
    · rw [List.mem_singleton.1 present]
      exact stored
  · exact Inspect.lookup_entry (by decide +kernel) stored

/-- The two runs, and what they leave. -/
theorem findsAll_iff_comparable_afterTwo :
    RunsInTurn "d" idle [oneStored, oneStored] afterTwo ∧
      (∀ recorder ∈ idle.recording.recorders, recorder.Quiet) ∧
      LogStore.Fresh idle.recording.tree "d" ∧
      ∃ (history : List (List Event)) (frames : List Bytes) (contents : Contents)
          (recovery : Recovery),
        history.map List.length = [1, 1] ∧
        Log.Frames (history.flatMap (Writer.new 1).batches) frames ∧
        afterTwo.recording.tree.read (LogStore.filePath "d") = .ok (Log.head ++ frames.flatten) ∧
        LogSnapshot.read afterTwo.recording.tree "d" = .ok ⟨"d", contents, recovery⟩ ∧
        Inspect.records contents = .ok (Record.overlaid (history.map Record.numbered)) ∧
        (Inspect.FindsAll contents (history.map Record.numbered) ↔
          Record.Comparable (history.map Record.numbered)) := by
  have quiet : ∀ recorder ∈ idle.recording.recorders, recorder.Quiet := by
    intro recorder present
    cases present
  have fresh : LogStore.Fresh idle.recording.tree "d" := by
    intro sync store after _
    exact FileTree.content_empty store.file
  exact ⟨runs_afterTwo, quiet, fresh,
    runs_afterTwo.findsAll_iff_comparable quiet fresh (by simp) (by simp [oneStored])⟩

end RunsInTurn

end Pipeline

end CausalTrace
