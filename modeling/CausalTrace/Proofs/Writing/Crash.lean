import CausalTrace.Proofs.Inspect.Records
import CausalTrace.Proofs.Storage.Logs
import CausalTrace.Proofs.Writing.Batches
import CausalTrace.Proofs.Writing.Runs

/-!
# A traced run whose log is cut off

A writer commits each record together with its index entry as one batch, a log store appends one
frame for each batch, and replay takes whole frames only.  So wherever the log of a run is cut, what
is read back is the trace of the first events of that run: their records, numbered from one on, and
the index entries that belong to them, with nothing missing and nothing left over.
-/

namespace CausalTrace

/-- Contents that are the trace of events: their records in order, and for each message id that was
sent the number of its first record. -/
structure Traces (contents : Contents) (events : List Event) : Prop where
  records : Inspect.records contents = .ok (Record.numbered events)
  entries : ∀ messageId, contents.get? Record.indexPartition messageId =
    (Record.firstSent? (Record.numbered events) messageId).map fun record =>
      Utf8.encode record.id.key

namespace Writer

/-- The batches of a new writer, applied to nothing, are the trace of its events. -/
theorem traces_batches (attempts : Nat) {events : List Event} (fits : events.length < 2 ^ 64) :
    Traces (Contents.empty.applyAll ((Writer.new attempts).batches events)) events := by
  have stores := stores_batches attempts .empty fits
  have ascending := (Record.fromOne_numbered fits).ascending
  refine ⟨Inspect.records_stored ?_ ascending fun record present => ?_, fun messageId => ?_⟩
  · rw [stores.keys]
    exact .refl _
  · rw [stores.record, Record.find?_key ascending present]
    rfl
  · rw [stores.entry]
    exact Option.or_none

/-! ## A run on a log -/

/-- A commit that a log refuses is refused at every attempt, so what is stored at last was stored at
once, and of what is not stored nothing is left. -/
theorem tryCommit_log_cases {batch : Batch} {left : Nat} {disk after : LogStore × FileTree}
    {settlement : Settlement} (tried : tryCommit batch left disk = (settlement, after)) :
    disk.1.commit disk.2 batch = (.ok (), after) ∨ settlement ≠ .stored ∧ after = disk := by
  have answered : Store.commit (Store.arrive disk) batch
      = (CommitAnswer.ofExcept (disk.1.commit disk.2 batch).1, (disk.1.commit disk.2 batch).2) :=
    rfl
  cases committed : disk.1.commit disk.2 batch with
  | mk result taken =>
    rw [committed] at answered
    cases result with
    | ok _ => cases left <;> rw [tryCommit, answered] at tried <;> cases tried <;> exact .inl rfl
    | error failure =>
      rw [LogStore.commit_error committed] at answered
      refine .inr ?_
      induction left with
      | zero =>
        rw [tryCommit, answered] at tried
        cases tried
        refine ⟨fun stored => ?_, rfl⟩
        cases stored
      | succ left ih =>
        rw [tryCommit, answered] at tried
        exact ih tried

/-- A run whose calls all store their event commits the batches of its events, one
after the other. -/
theorem Runs.commits {attempts : Nat} {start disk : LogStore × FileTree}
    {past : List (Event × Settlement)} {writer : Writer}
    (run : Runs attempts start past writer disk) (allStored : ∀ call ∈ past, call.2 = .stored) :
    writer = (Writer.new attempts).acknowledgedAll (past.map Prod.fst) ∧
      LogStore.Commits start ((Writer.new attempts).batches (past.map Prod.fst)) disk := by
  induction run with
  | new => exact ⟨rfl, .opened⟩
  | @persist past writer disk event settlement after later prior survived written ih =>
    obtain ⟨acknowledged, commits⟩ := ih fun call present =>
      allStored call (List.mem_append_left _ present)
    have stored : settlement = .stored := allStored (event, settlement) (by simp)
    subst stored
    obtain ⟨tried, rfl⟩ := persist_eq written
    have done := (tryCommit_log_cases tried).resolve_right fun refused => refused.1 rfl
    rw [List.map_append, List.map_singleton, acknowledgedAll_concat, batches_concat, ← acknowledged]
    exact ⟨rfl, .commit commits (List.cons_ne_nil _ _) done⟩

/-- Every call of a run in which each event was stored has stored its event. -/
theorem stored_of_mem_map (events : List Event) :
    ∀ call ∈ events.map (·, Settlement.stored), call.2 = .stored := by
  intro call present
  obtain ⟨event, -, rfl⟩ := List.mem_map.1 present
  rfl

/-- On a log where nothing was, a writer can store all events whose batches have room in frames. -/
theorem Runs.of_encodes {tree opened : FileTree} {directory : String} {sync : SyncMode}
    {store : LogStore} {attempts : Nat} {events : List Event}
    (started : LogStore.openIn tree directory sync = (.ok store, opened))
    (fresh : tree.content store.file = [])
    (encodes : ∀ batch ∈ (Writer.new attempts).batches events,
      ∃ frame, Frame.encode batch = .ok frame) :
    ∃ writer disk, Runs attempts (store, opened) (events.map (·, .stored)) writer disk := by
  suffices holds : ∃ writer disk, Runs attempts (store, opened) (events.map (·, .stored)) writer
      disk ∧ LogStore.HoldsAll directory disk ((Writer.new attempts).batches events) by
    obtain ⟨writer, disk, run, -⟩ := holds
    exact ⟨writer, disk, run⟩
  induction events using List.reverseRecOn with
  | nil => exact ⟨_, _, .new, LogStore.holdsAll_openIn started fresh⟩
  | append_singleton events event ih =>
    rw [batches_concat] at encodes ⊢
    obtain ⟨writer, disk, run, holds⟩ := ih fun batch present =>
      encodes batch (List.mem_append_left _ present)
    obtain ⟨frame, encoded⟩ := encodes _ (List.mem_append_right _ (.head _))
    have same : writer = (Writer.new attempts).acknowledgedAll events := by
      simpa [Function.comp_def] using (run.commits (stored_of_mem_map events)).1
    rw [← same] at encoded ⊢
    obtain ⟨committed, further⟩ := holds.commit (List.cons_ne_nil _ _) encoded
    have answered : Store.commit (Store.arrive disk) (writer.batch event)
        = (CommitAnswer.ofExcept (disk.1.commit disk.2 (writer.batch event)).1,
          (disk.1.commit disk.2 (writer.batch event)).2) := rfl
    rw [batch, committed] at answered
    rw [List.map_append, List.map_singleton]
    exact ⟨_, _, run.persist Settlement.noConfusion (persist_done answered), further⟩

/-- Wherever the log of a run is cut behind its head, it is read back as the trace of the events
whose frames are whole, and the rest is reported as torn. -/
theorem Runs.read_cut {tree opened : FileTree} {directory : String} {sync : SyncMode}
    {store : LogStore} {attempts : Nat} {past : List (Event × Settlement)} {writer : Writer}
    {disk : LogStore × FileTree}
    (started : LogStore.openIn tree directory sync = (.ok store, opened))
    (fresh : tree.content store.file = [])
    (run : Runs attempts (store, opened) past writer disk)
    (allStored : ∀ call ∈ past, call.2 = .stored) (numbered : past.length < 2 ^ 64) :
    ∃ frames, Log.Frames ((Writer.new attempts).batches (past.map Prod.fst)) frames ∧
      disk.2.content store.file = Log.head ++ frames.flatten ∧
      ∀ cut, Log.headSize ≤ cut → cut ≤ (disk.2.content store.file).length →
        ∃ count ≤ past.length,
          (∀ other ≤ past.length, other ≤ count ↔ Log.endOf frames other ≤ cut) ∧
          ∃ snapshot,
            LogSnapshot.read
                (disk.2.fill store.file ((disk.2.content store.file).take cut)) directory
              = .ok snapshot ∧
            snapshot.recovery = ⟨count, cut - Log.endOf frames count⟩ ∧
            Traces snapshot.contents ((past.map Prod.fst).take count) := by
  have keepsNothing := LogStore.keeps_openIn started fresh
  have started := (LogStore.openIn_ok started).2.1
  obtain ⟨-, commits⟩ := run.commits allStored
  obtain ⟨frames, keeps⟩ := commits.keeps keepsNothing
  obtain ⟨directory', file'⟩ := commits.same
  have log := keeps.log
  have content := keeps.content
  rw [directory', file', started] at log
  rw [file'] at content
  have count := keeps.written.length_eq
  rw [length_batches, List.length_map] at count
  refine ⟨frames, keeps.written, content, fun cut behindHead present => ?_⟩
  rw [content] at present ⊢
  obtain ⟨whole, known, ends, replayed⟩ := Log.replay_take keeps.written behindHead present
  rw [← count] at known ends
  have cutLog := log.fill store.file ((Log.head ++ frames.flatten).take cut)
  rw [← FileTree.content_fill_self log.lt ((Log.head ++ frames.flatten).take cut)] at replayed
  refine ⟨whole, known, ends, _, LogStore.read_replayed cutLog replayed, ?_, ?_⟩
  · simp only [Log.Replay.recovery, List.length_take, length_batches, List.length_map]
    rw [Nat.min_eq_left known]
  · rw [batches_take]
    refine traces_batches attempts ?_
    rw [List.length_take, List.length_map]
    omega

/-- A message is sent. -/
def sentFirst : Event := ⟨⟨"a", none, .empty, "b"⟩, some ⟨"m", [], none⟩, .sent, 0⟩

/-- It is received. -/
def receivedNext : Event := ⟨⟨"a", some "r", .empty, "b"⟩, some ⟨"m", [], none⟩, .received, 0⟩

/-- Another message is sent under the id of the first. -/
def sentAgain : Event := ⟨⟨"a", none, .empty, "c"⟩, some ⟨"m", ["p"], some "l"⟩, .sent, 1⟩

/-- Three events, of which the first and the last have one id. -/
def repeatedId : List Event := [sentFirst, receivedNext, sentAgain]

/-- All batches of these events have room in frames. -/
theorem encodes_repeatedId : ∀ batch ∈ (Writer.new 1).batches repeatedId,
    ∃ frame, Frame.encode batch = .ok frame := by
  have all : ((Writer.new 1).batches repeatedId).all
      (fun batch => (Frame.encode batch).toOption.isSome) = true := by
    decide +kernel
  intro batch present
  obtain ⟨frame, found⟩ := Option.isSome_iff_exists.1 (List.all_eq_true.1 all batch present)
  exact ⟨frame, Frame.ok_of_toOption found⟩

/-- The log of these events, cut anywhere. -/
theorem Runs.read_cut_repeatedId :
    let store : LogStore := ⟨"d", 0, .onClose, 0, 8, ⟨0, 0⟩⟩
    let opened := (LogStore.openIn .empty "d" .onClose).2
    LogStore.openIn .empty "d" .onClose = (.ok store, opened) ∧
      ∃ writer disk, Runs 1 (store, opened) (repeatedId.map (·, .stored)) writer disk ∧
        ∃ frames, Log.Frames ((Writer.new 1).batches repeatedId) frames ∧
          disk.2.content 0 = Log.head ++ frames.flatten ∧
          ∀ cut, Log.headSize ≤ cut → cut ≤ (disk.2.content 0).length →
            ∃ count ≤ 3, (∀ other ≤ 3, other ≤ count ↔ Log.endOf frames other ≤ cut) ∧
              ∃ snapshot,
                LogSnapshot.read (disk.2.fill 0 ((disk.2.content 0).take cut)) "d" = .ok snapshot ∧
                snapshot.recovery = ⟨count, cut - Log.endOf frames count⟩ ∧
                Traces snapshot.contents (repeatedId.take count) := by
  intro store opened
  have started : LogStore.openIn .empty "d" .onClose = (.ok store, opened) := rfl
  obtain ⟨writer, disk, run⟩ := Runs.of_encodes started rfl encodes_repeatedId
  exact ⟨started, writer, disk, run, run.read_cut started rfl (stored_of_mem_map _) (by decide)⟩

end Writer

end CausalTrace
