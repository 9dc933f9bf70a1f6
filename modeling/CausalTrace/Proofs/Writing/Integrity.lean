import CausalTrace.Proofs.Inspect.Records
import CausalTrace.Proofs.Writing.Batches
import CausalTrace.Proofs.Writing.Runs

/-!
# The index and the records agree

A writer remembers which message ids have an index entry, and it learns that only from
acknowledgements.  A store may hold more than its writer knows: batches that were applied and
reported as failed.  `Writer.Agrees` relates the three, and every call preserves it: an entry that
is set down once more points to the record in its own batch, which is stored with it.

What a reader can rely on is `IndexIntegrity`, which does not speak of the writer's memory.
-/

namespace CausalTrace

/-- What holds of stored records and index entries while the next record gets a given number. -/
structure IndexIntegrity (contents : Contents) (next : RecordId) : Prop where
  /-- A record is stored under its own number, which is a number that was given out. -/
  numbered : ∀ key ∈ contents.keys Record.partition, ∃ record : Record,
    key = record.id.key ∧ record.id < next ∧
      (contents.get? Record.partition key).bind Record.decode? = some record
  /-- An index entry leads to a sent record with the message id of the entry. -/
  pointed : ∀ messageId ∈ contents.keys Record.indexPartition, ∃ record : Record,
    contents.get? Record.indexPartition messageId = some (Utf8.encode record.id.key) ∧
      Inspect.lookup contents messageId = .ok (some record) ∧
      record.messageId = messageId ∧ record.direction = .sent
  /-- The message ids with an entry are those of the sent records that have one. -/
  complete : ∀ messageId, messageId ∈ contents.keys Record.indexPartition ↔
    messageId ≠ "" ∧ ∃ key, ∃ record : Record,
      (contents.get? Record.partition key).bind Record.decode? = some record ∧
        record.direction = .sent ∧ record.messageId = messageId

namespace Writer

/-- A writer's memory agrees with what its store holds. -/
structure Agrees (writer : Writer) (contents : Contents) : Prop where
  records : ∀ key value, contents.get? Record.partition key = some value →
    ∃ record : Record, record.id < writer.next ∧ key = record.id.key ∧ value = record.encode
  entries : ∀ messageId value, contents.get? Record.indexPartition messageId = some value →
    ∃ record : Record, record.isIndexable = true ∧ record.messageId = messageId ∧
      value = Utf8.encode record.id.key ∧
      contents.get? Record.partition record.id.key = some record.encode
  indexed : ∀ record : Record, record.isIndexable = true →
    contents.get? Record.partition record.id.key = some record.encode →
      (contents.get? Record.indexPartition record.messageId).isSome = true
  /-- The store holds at least the entries that the writer knows of. -/
  confirmed : ∀ messageId, writer.index.contains messageId = true →
    (contents.get? Record.indexPartition messageId).isSome = true

/-! ## What a call preserves -/

section Calls

variable {writer : Writer} {contents : Contents} {event : Event}

/-- A writer agrees with a store that holds nothing. -/
theorem Agrees.new {attempts : Nat} (noRecords : contents.keys Record.partition = [])
    (noEntries : contents.keys Record.indexPartition = []) :
    Agrees (.new attempts) contents where
  records key value found := by
    have present : key ∈ contents.keys Record.partition :=
      Contents.mem_keys_iff.2 (Option.isSome_of_eq_some found)
    rw [noRecords] at present
    cases present
  entries messageId value found := by
    have present : messageId ∈ contents.keys Record.indexPartition :=
      Contents.mem_keys_iff.2 (Option.isSome_of_eq_some found)
    rw [noEntries] at present
    cases present
  indexed record _ found := by
    have present : record.id.key ∈ contents.keys Record.partition :=
      Contents.mem_keys_iff.2 (Option.isSome_of_eq_some found)
    rw [noRecords] at present
    cases present
  confirmed messageId known := by cases known

/-- The next record takes the place of none that is stored. -/
theorem Agrees.next_key_ne (agrees : writer.Agrees contents) {key : String} {value : Bytes}
    (found : contents.get? Record.partition key = some value) : writer.next.key ≠ key := by
  rintro rfl
  obtain ⟨record, earlier, same, -⟩ := agrees.records _ value found
  rw [← RecordId.key_injective same] at earlier
  exact UInt64.lt_irrefl _ earlier

/-- Letting an event go keeps the agreement. -/
theorem Agrees.passed (agrees : writer.Agrees contents) (numbered : writer.next < writer.next + 1) :
    writer.passed.Agrees contents where
  records key value found := by
    obtain ⟨record, earlier, here, stored⟩ := agrees.records key value found
    exact ⟨record, UInt64.lt_trans earlier numbered, here, stored⟩
  entries := agrees.entries
  indexed := agrees.indexed
  confirmed := agrees.confirmed

/-- So does letting an event go whose batch was applied. -/
theorem Agrees.applied (agrees : writer.Agrees contents)
    (numbered : writer.next < writer.next + 1) :
    writer.passed.Agrees (contents.apply (writer.batch event)) where
  records key value found := by
    rw [get?_apply_batch_record] at found
    split at found
    next here =>
      cases found
      exact ⟨writer.record event, numbered, here.symm, rfl⟩
    next => exact (agrees.passed numbered).records key value found
  entries messageId value found := by
    rw [get?_apply_batch_entry] at found
    split at found
    next due =>
      cases found
      refine ⟨writer.record event, ?_, due.2, rfl, ?_⟩
      · have needed := due.1
        simp only [Index.needs, Bool.and_eq_true] at needed
        exact needed.1
      · exact (get?_apply_batch_record writer event contents _).trans (if_pos rfl)
    next =>
      obtain ⟨record, sent, same, points, stored⟩ := agrees.entries messageId value found
      refine ⟨record, sent, same, points, ?_⟩
      rw [get?_apply_batch_record, if_neg (agrees.next_key_ne stored), stored]
  indexed record sent found := by
    rw [get?_apply_batch_entry]
    split
    · rfl
    next spared =>
      rw [get?_apply_batch_record] at found
      split at found
      next here =>
        have same := congrArg Record.decode? (Option.some.inj found)
        rw [Record.decode?_encode, Record.decode?_encode, Option.some.injEq] at same
        rw [same] at spared
        -- A sent record without a new entry is one whose id has an entry already.
        refine agrees.confirmed _ ?_
        simpa [Index.needs, sent] using spared
      next => exact agrees.indexed record sent found
  confirmed messageId known := by
    rw [get?_apply_batch_entry]
    split
    · rfl
    · exact agrees.confirmed messageId known

/-- An acknowledgement tells the writer of an entry that the store has. -/
theorem Agrees.acknowledged (agrees : writer.Agrees contents)
    (numbered : writer.next < writer.next + 1) :
    (writer.acknowledged event).Agrees (contents.apply (writer.batch event)) where
  records := (agrees.applied numbered).records
  entries := (agrees.applied numbered).entries
  indexed := (agrees.applied numbered).indexed
  confirmed messageId known := by
    rw [get?_apply_batch_entry]
    split
    · rfl
    next spared =>
      rcases (contains_acknowledged writer event messageId).1 known with before | ⟨sent, rfl⟩
      · exact agrees.confirmed messageId before
      · refine agrees.confirmed _ ?_
        simpa [Index.needs, sent] using spared

end Calls

/-! ## Every run -/

variable {σ : Type} [Store σ] [AtomicStore σ] {attempts : Nat} {start store : σ}
  {past : List (Event × Settlement)} {writer : Writer}

/-- After every call the writer agrees with what its store holds. -/
theorem Runs.agrees {contents : Contents} (run : Runs attempts start past writer store)
    (holds : AtomicStore.Holds start contents) (noRecords : contents.keys Record.partition = [])
    (noEntries : contents.keys Record.indexPartition = []) (numbered : past.length + 1 < 2 ^ 64) :
    ∃ contents, AtomicStore.Holds store contents ∧ writer.Agrees contents := by
  induction run with
  | new => exact ⟨contents, holds, .new noRecords noEntries⟩
  | @persist past writer store event settlement after later prior survived written ih =>
    rw [List.length_append, List.length_singleton] at numbered
    obtain ⟨contents, before, agrees⟩ := ih (by omega)
    have following : writer.next < writer.next + 1 := by
      rw [UInt64.lt_iff_toNat_lt, UInt64.toNat_add, UInt64.toNat_one, prior.toNat_next (by omega)]
      omega
    rcases persist_holds before survived written with ⟨applied, rfl | rfl⟩ | ⟨kept, rfl⟩
    · exact ⟨_, applied, agrees.acknowledged following⟩
    · exact ⟨_, applied, agrees.applied following⟩
    · exact ⟨_, kept, agrees.passed following⟩

/-- What a writer agrees with is sound for every reader. -/
theorem Agrees.integrity {contents : Contents} (agrees : writer.Agrees contents) :
    IndexIntegrity contents writer.next where
  numbered key present := by
    obtain ⟨value, found⟩ := Option.isSome_iff_exists.1 (Contents.mem_keys_iff.1 present)
    obtain ⟨record, earlier, here, rfl⟩ := agrees.records key value found
    refine ⟨record, here, earlier, ?_⟩
    rw [found, Option.bind_some, Record.decode?_encode]
  pointed messageId present := by
    obtain ⟨value, found⟩ := Option.isSome_iff_exists.1 (Contents.mem_keys_iff.1 present)
    obtain ⟨record, indexable, same, rfl, stored⟩ := agrees.entries messageId value found
    exact ⟨record, found, Inspect.lookup_entry found stored, same,
      (Record.isIndexable_iff.1 indexable).1⟩
  complete messageId := by
    constructor
    · intro present
      obtain ⟨value, found⟩ := Option.isSome_iff_exists.1 (Contents.mem_keys_iff.1 present)
      obtain ⟨record, indexable, rfl, _, stored⟩ := agrees.entries messageId value found
      obtain ⟨sent, named⟩ := Record.isIndexable_iff.1 indexable
      refine ⟨named, record.id.key, record, ?_, sent, rfl⟩
      rw [stored, Option.bind_some, Record.decode?_encode]
    · rintro ⟨named, key, record, decoded, sent, rfl⟩
      obtain ⟨value, found, decodes⟩ := Option.bind_eq_some_iff.1 decoded
      obtain ⟨stored, _, rfl, rfl⟩ := agrees.records key value found
      rw [Record.decode?_encode, Option.some.injEq] at decodes
      subst decodes
      exact Contents.mem_keys_iff.2
        (agrees.indexed stored (Record.isIndexable_iff.2 ⟨sent, named⟩) found)

/-- Whatever commits of an atomic store fail, and whether or not the failed ones were applied, after
every call the index and the records of the store agree. -/
theorem Runs.indexIntegrity {contents : Contents} (run : Runs attempts start past writer store)
    (holds : AtomicStore.Holds start contents) (noRecords : contents.keys Record.partition = [])
    (noEntries : contents.keys Record.indexPartition = []) (numbered : past.length + 1 < 2 ^ 64) :
    ∃ contents, AtomicStore.Holds store contents ∧ IndexIntegrity contents writer.next := by
  obtain ⟨contents, held, agrees⟩ := run.agrees holds noRecords noEntries numbered
  exact ⟨contents, held, agrees.integrity⟩

/-- A commit is applied and reported as failed, and then the message id comes up again. -/
theorem Runs.indexIntegrity_afterDenial :
    let event : Event := ⟨⟨"a", none, .empty, "b"⟩, some ⟨"m", [], none⟩, .sent, 0⟩
    let start : UnreliableStore :=
      ⟨"", .new, Outcome.plan [.deny .closed, .accept] false, 0, 0, false, none⟩
    let first := (Writer.new 1).persist start event
    let second := first.2.1.persist first.2.2 event
    first.1 = .abandoned .closed ∧ second.1 = .stored ∧
      ∃ contents, AtomicStore.Holds second.2.2 contents ∧
        IndexIntegrity contents second.2.1.next := by
  intro event start first second
  have denied : first.1 = .abandoned .closed := rfl
  have stored : second.1 = .stored := rfl
  have one : Runs 1 start [(event, first.1)] first.2.1 first.2.2 :=
    .persist .new (by simp [denied]) rfl
  have two : Runs 1 start [(event, first.1), (event, second.1)] second.2.1 second.2.2 :=
    .persist one (by simp [stored]) rfl
  exact ⟨denied, stored, two.indexIntegrity rfl rfl rfl (by simp)⟩

end Writer

end CausalTrace
