import CausalTrace.Proofs.Inspect.Ancestry
import CausalTrace.Proofs.Storage.Reopening
import CausalTrace.Proofs.Writing.Crash
import Mathlib.Data.List.Nodup

/-!
# Logs that writers have written

Whatever a writer commits to a log is a record under the key of its own number, with an index entry
or without.  So a log that was written by writers, one or several after each other, and that may
have been cut off since, is read back as contents in which every key of a record leads to the record
of that number, and its records are listed without repetition in the order of their numbers.
-/

namespace CausalTrace

/-- Batches that writers have made of events. -/
def Writer.Made (batches : List Batch) : Prop :=
  ∀ batch ∈ batches, ∃ (writer : Writer) (event : Event), batch = writer.batch event

/-- A log that writers have written: their batches in whole frames, and behind them a torn tail,
which may be empty. -/
structure WrittenLog (content : Bytes) (batches : List Batch) : Prop where
  form : ∃ form : Log.Form, form.Of content ∧ form.batches = batches
  made : Writer.Made batches

namespace Inspect

variable {contents : Contents}

/-- There is nothing unreadable in an empty store. -/
theorem HoldsRecords.empty : HoldsRecords .empty := by
  intro key value found
  cases found

/-- A batch of a writer adds one readable record. -/
theorem HoldsRecords.apply_batch (holds : HoldsRecords contents) (writer : Writer)
    (event : Event) : HoldsRecords (contents.apply (writer.batch event)) := by
  intro key value found
  rw [Writer.get?_apply_batch_record] at found
  split at found
  next here => exact ⟨writer.record event, here.symm, (Option.some.inj found).symm⟩
  next => exact holds key value found

/-- Batches that writers made add readable records only. -/
theorem HoldsRecords.applyAll {batches : List Batch} (holds : HoldsRecords contents)
    (made : Writer.Made batches) : HoldsRecords (contents.applyAll batches) := by
  induction batches generalizing contents with
  | nil => exact holds
  | cons batch rest ih =>
    obtain ⟨writer, event, rfl⟩ := made batch List.mem_cons_self
    exact ih (holds.apply_batch writer event)
      fun other present => made other (List.mem_cons_of_mem _ present)

/-- Where no key is there twice, no number is. -/
theorem HoldsRecords.ids_ascending (holds : HoldsRecords contents)
    (once : (contents.keys Record.partition).Nodup) : (ids contents).Pairwise (· < ·) := by
  have spelled : ∀ key ∈ contents.keys Record.partition,
      ∃ id, RecordId.ofKey? key = some id ∧ key = RecordId.key id := by
    intro key present
    obtain ⟨value, found⟩ := Option.isSome_iff_exists.1 (Contents.mem_keys_iff.1 present)
    obtain ⟨record, rfl, -⟩ := holds key value found
    exact ⟨record.id, RecordId.ofKey?_key _, rfl⟩
  have numbers (keys : List String)
      (each : ∀ key ∈ keys, ∃ id, RecordId.ofKey? key = some id ∧ key = RecordId.key id) :
      (keys.filterMap RecordId.ofKey?).map RecordId.key = keys := by
    induction keys with
    | nil => rfl
    | cons key rest ih =>
      obtain ⟨id, read, same⟩ := each key List.mem_cons_self
      rw [List.filterMap_cons_some read, List.map_cons, ← same,
        ih fun other present => each other (List.mem_cons_of_mem _ present)]
  have distinct : (ids contents).Nodup := by
    rw [ids, (List.mergeSort_perm _ _).nodup_iff]
    exact List.Nodup.of_map RecordId.key (by rw [numbers _ spelled]; exact once)
  exact (Inspect.ids_ascending contents).imp₂
    (fun _ _ atMost other => UInt64.lt_of_le_of_ne atMost other) distinct

end Inspect

namespace WrittenLog

variable {content : Bytes} {batches : List Batch}

/-- What a written log is read as. -/
theorem read {tree : FileTree} {directory : String} (log : WrittenLog content batches)
    (there : tree.read (LogStore.filePath directory) = .ok content) :
    ∃ recovery, LogSnapshot.read tree directory
      = .ok ⟨directory, Contents.empty.applyAll batches, recovery⟩ := by
  obtain ⟨form, of, rfl⟩ := log.form
  refine ⟨⟨form.batches.length, form.tail.length⟩, ?_⟩
  rw [LogSnapshot.read, there]
  dsimp only
  rw [LogSnapshot.ofLog, of.replay]
  rfl

/-- Its records are listed in the order of their numbers, each once. -/
theorem records (log : WrittenLog content batches) :
    ∃ all, Inspect.records (Contents.empty.applyAll batches) = .ok all ∧
      (all.map Record.id).Pairwise (· < ·) ∧
      ∀ record, record ∈ all ↔ Inspect.Stored (Contents.empty.applyAll batches) record := by
  have holds := Inspect.HoldsRecords.empty.applyAll log.made
  have nothing (partition : String) : (Contents.empty.keys partition).Nodup := List.nodup_nil
  have once : ((Contents.empty.applyAll batches).keys Record.partition).Nodup := by
    rw [Contents.applyAll_eq]
    exact Contents.nodup_keys_apply nothing _ _
  obtain ⟨all, listed, same, -, found⟩ := holds.records_ascending
  exact ⟨all, listed, same ▸ holds.ids_ascending once, found⟩

end WrittenLog

/-! ## What a run leaves -/

namespace Writer

/-- A run puts batches of its writer behind those that were there. -/
theorem Runs.keeps_made {attempts : Nat} {start disk : LogStore × FileTree}
    {past : List (Event × Settlement)} {writer : Writer} {earlier : List Batch}
    {frames : List Bytes} (run : Runs attempts start past writer disk)
    (keeps : LogStore.Keeps start earlier frames) (made : Made earlier) :
    ∃ batches frames, LogStore.Keeps disk batches frames ∧ Made batches := by
  induction run with
  | new => exact ⟨earlier, frames, keeps, made⟩
  | @persist past writer disk event settlement after later prior survived written ih =>
    obtain ⟨batches, frames, before, made⟩ := ih
    rcases tryCommit_log_cases (persist_eq written).1 with done | ⟨-, rfl⟩
    · obtain ⟨frame, further⟩ := before.commit (List.cons_ne_nil _ _) done
      refine ⟨_, _, further, fun batch present => ?_⟩
      rcases List.mem_append.1 present with old | new
      · exact made batch old
      · exact ⟨writer, event, List.mem_singleton.1 new⟩
    · exact ⟨batches, frames, before, made⟩

end Writer

/-- Wherever such a log is cut behind its head, it is a written log. -/
theorem LogStore.Keeps.writtenLog {disk : LogStore × FileTree} {batches : List Batch}
    {frames : List Bytes} (keeps : LogStore.Keeps disk batches frames)
    (made : Writer.Made batches) {cut : Nat} (behindHead : Log.headSize ≤ cut)
    (present : cut ≤ (disk.2.content disk.1.file).length) :
    ∃ count ≤ batches.length, WrittenLog ((disk.2.content disk.1.file).take cut)
      (batches.take count) := by
  rw [keeps.content] at present ⊢
  obtain ⟨count, known, -, replayed⟩ := Log.replay_take keeps.written behindHead present
  obtain ⟨form, of, same⟩ := Log.exists_form_of_replay replayed
  refine ⟨count, keeps.written.length_eq ▸ known, ⟨form, of, ?_⟩,
    fun batch among => made batch (List.mem_of_mem_take among)⟩
  exact (congrArg Log.Replay.batches same).symm

end CausalTrace
