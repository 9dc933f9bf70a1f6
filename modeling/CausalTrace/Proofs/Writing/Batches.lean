import CausalTrace.Proofs.Record.Stored
import CausalTrace.Proofs.Storage.Contents
import CausalTrace.Writer
import Mathlib.Data.List.Induction

/-!
# What the batches of a writer store

The batch of an event puts one record and at most one index entry.  A new writer whose batches are
all acknowledged therefore stores the records of its events under the numbers from one on, and
gives each message id the number of its first sent record.  Whatever was stored before stays, except
where a number or a message id comes up again.
-/

namespace CausalTrace

namespace Record

/-- Records of sent messages with an id are indexed, and no others. -/
theorem isIndexable_iff {record : Record} :
    record.isIndexable = true ↔ record.direction = .sent ∧ record.messageId ≠ "" := by
  simp [isIndexable]

/-- Records and index entries are kept apart. -/
theorem partition_ne_indexPartition : partition ≠ indexPartition := by
  decide

/-- The records of events that are numbered from one on. -/
def numbered (events : List Event) : List Record :=
  events.mapIdx fun place event => .ofEvent (UInt64.ofNat (place + 1)) event

/-- The first sent record of a message id; of records in the order of their numbers it is the one
with the smallest number. -/
def firstSent? (records : List Record) (messageId : MessageId) : Option Record :=
  records.find? fun record => record.isIndexable && record.messageId == messageId

/-- The last event has the number of its place. -/
theorem numbered_concat (events : List Event) (event : Event) :
    numbered (events ++ [event])
      = numbered events ++ [.ofEvent (UInt64.ofNat (events.length + 1)) event] :=
  List.mapIdx_concat

/-- Every event has its record. -/
theorem length_numbered (events : List Event) : (numbered events).length = events.length :=
  List.length_mapIdx

/-- Records whose numbers are those from one on, in order. -/
def FromOne (records : List Record) : Prop :=
  ∀ place (known : place < records.length), records[place].id.toNat = place + 1

/-- Records are numbered from one, as long as there are numbers. -/
theorem fromOne_numbered {events : List Event} (fits : events.length < 2 ^ 64) :
    FromOne (numbered events) := by
  intro place known
  rw [length_numbered] at known
  simp only [numbered, List.getElem_mapIdx, ofEvent]
  exact UInt64.toNat_ofNat_of_lt' (by omega : place + 1 < 2 ^ 64)

section FromOne

variable {records : List Record} (fromOne : FromOne records)

include fromOne

/-- Records that are numbered from one ascend. -/
theorem FromOne.ascending : (records.map Record.id).Pairwise (· < ·) := by
  rw [List.pairwise_map, List.pairwise_iff_getElem]
  intro earlier later earlierKnown laterKnown before
  rw [UInt64.lt_iff_toNat_lt, fromOne earlier earlierKnown, fromOne later laterKnown]
  omega

/-- The next number was not given out before. -/
theorem FromOne.id_ne_next (fits : records.length + 1 < 2 ^ 64) {record : Record}
    (earlier : record ∈ records) : record.id ≠ UInt64.ofNat (records.length + 1) := by
  obtain ⟨place, known, rfl⟩ := List.getElem_of_mem earlier
  intro again
  have number := congrArg UInt64.toNat again
  rw [fromOne place known, UInt64.toNat_ofNat_of_lt' fits] at number
  omega

end FromOne

/-- Of records with different numbers each is found under its own key. -/
theorem find?_key {records : List Record} (ascending : (records.map Record.id).Pairwise (· < ·))
    {record : Record} (present : record ∈ records) :
    records.find? (fun other => other.id.key == record.id.key) = some record := by
  induction records with
  | nil => cases present
  | cons first rest ih =>
    rw [List.map_cons, List.pairwise_cons] at ascending
    rcases List.mem_cons.1 present with rfl | later
    · exact List.find?_cons_of_pos (beq_self_eq_true _)
    · have other : (first.id.key == record.id.key) = false := by
        rw [beq_eq_false_iff_ne]
        intro same
        have below := ascending.1 record.id (List.mem_map_of_mem later)
        rw [RecordId.key_injective same] at below
        exact UInt64.lt_irrefl _ below
      rw [List.find?_cons, other]
      exact ih ascending.2 later

/-- No record is found under a key that none of them has. -/
theorem find?_key_eq_none {records : List Record} {key : String}
    (unused : ∀ record ∈ records, record.id.key ≠ key) :
    records.find? (fun record => record.id.key == key) = none := by
  rw [List.find?_eq_none]
  intro record present
  simpa using unused record present

/-- A later record is the first sent one only if none before it was. -/
theorem firstSent?_concat (records : List Record) (last : Record) (messageId : MessageId) :
    firstSent? (records ++ [last]) messageId = (firstSent? records messageId).or
      (if last.isIndexable = true ∧ last.messageId = messageId then some last else none) := by
  rw [firstSent?, firstSent?, List.find?_append, List.find?_singleton]
  simp only [Bool.and_eq_true, beq_iff_eq]

end Record

namespace Writer

/-- The writer after the records of several events were acknowledged. -/
def acknowledgedAll (writer : Writer) (events : List Event) : Writer :=
  events.foldl acknowledged writer

/-- The batches of events whose records are all acknowledged. -/
def batches (writer : Writer) : List Event → List Batch
  | [] => []
  | event :: rest => writer.batch event :: (writer.acknowledged event).batches rest

/-- The last batch is that of a writer that has acknowledged the events before. -/
theorem batches_concat (writer : Writer) (events : List Event) (event : Event) :
    writer.batches (events ++ [event])
      = writer.batches events ++ [(writer.acknowledgedAll events).batch event] := by
  induction events generalizing writer with
  | nil => rfl
  | cons first rest ih =>
    rw [List.cons_append, batches, batches, ih, List.cons_append]
    rfl

/-- The batches do not depend on how often a commit is tried. -/
theorem batches_congr (index : Index) (next : RecordId) (attempts others : Nat)
    (events : List Event) :
    (⟨index, next, attempts⟩ : Writer).batches events
      = (⟨index, next, others⟩ : Writer).batches events := by
  induction events generalizing index next with
  | nil => rfl
  | cons event rest ih => exact congrArg (_ :: ·) (ih _ _)

/-- How often a writer tries makes no difference to its batches. -/
theorem batches_new (attempts : Nat) (events : List Event) :
    (new attempts).batches events = (new 1).batches events :=
  batches_congr .empty 1 _ _ events

/-- Every event has its batch. -/
theorem length_batches (writer : Writer) (events : List Event) :
    (writer.batches events).length = events.length := by
  induction events generalizing writer with
  | nil => rfl
  | cons event rest ih => rw [batches, List.length_cons, ih, List.length_cons]

/-- The first events have the first batches. -/
theorem batches_take (writer : Writer) (events : List Event) (count : Nat) :
    (writer.batches events).take count = writer.batches (events.take count) := by
  induction events generalizing writer count with
  | nil => rw [batches, List.take_nil, List.take_nil, batches]
  | cons first rest ih =>
    cases count with
    | zero => rfl
    | succ count => rw [batches, List.take_succ_cons, List.take_succ_cons, batches, ih]

/-- Events are acknowledged one after the other. -/
theorem acknowledgedAll_concat (writer : Writer) (events : List Event) (event : Event) :
    writer.acknowledgedAll (events ++ [event])
      = (writer.acknowledgedAll events).acknowledged event := by
  rw [acknowledgedAll, List.foldl_append]
  rfl

/-- A new writer has given out the numbers of its events and goes on with the next one. -/
theorem next_acknowledgedAll (attempts : Nat) (events : List Event) :
    ((new attempts).acknowledgedAll events).next = UInt64.ofNat (events.length + 1) := by
  induction events using List.reverseRecOn with
  | nil => rfl
  | append_singleton earlier event ih =>
    rw [List.length_append, List.length_singleton, UInt64.ofNat_add _ 1, ← ih,
      acknowledgedAll_concat]
    rfl

/-- An acknowledged writer knows the message id of the record as well, if it is to be indexed. -/
theorem contains_acknowledged (writer : Writer) (event : Event) (messageId : MessageId) :
    (writer.acknowledged event).index.contains messageId = true ↔
      writer.index.contains messageId = true ∨
        (writer.record event).isIndexable = true ∧
          (writer.record event).messageId = messageId := by
  rw [acknowledged]
  by_cases indexable : (writer.record event).isIndexable = true
  · by_cases known : writer.index.contains (writer.record event).messageId = true
    · have needless : ¬writer.index.needs (writer.record event) = true := by
        simp [Index.needs, known]
      simp only [if_neg needless, indexable, true_and]
      constructor
      · exact .inl
      · rintro (before | rfl)
        · exact before
        · exact known
    · have needed : writer.index.needs (writer.record event) = true := by
        simp [Index.needs, known, indexable]
      simp only [if_pos needed, indexable, true_and, Index.confirm, if_neg known]
      simp only [Index.contains, List.contains_iff_mem, List.mem_append, List.mem_singleton]
      exact or_congr Iff.rfl eq_comm
  · have needless : ¬writer.index.needs (writer.record event) = true := by
      simp [Index.needs, indexable]
    simp only [if_neg needless, indexable]
    simp

/-- A new writer knows the message ids of its sent records. -/
theorem contains_acknowledgedAll (attempts : Nat) (events : List Event) (messageId : MessageId) :
    ((new attempts).acknowledgedAll events).index.contains messageId = true ↔
      (Record.firstSent? (Record.numbered events) messageId).isSome = true := by
  induction events using List.reverseRecOn with
  | nil => exact Iff.rfl
  | append_singleton earlier event ih =>
    have numbered : ((new attempts).acknowledgedAll earlier).record event
        = .ofEvent (UInt64.ofNat (earlier.length + 1)) event := by
      rw [record, next_acknowledgedAll]
    rw [acknowledgedAll_concat, contains_acknowledged, ih, numbered, Record.numbered_concat,
      Record.firstSent?_concat, Option.isSome_or, Bool.or_eq_true]
    refine or_congr Iff.rfl ?_
    split
    next here => exact ⟨fun _ => rfl, fun _ => here⟩
    next elsewhere => exact ⟨fun here => absurd here elsewhere, nofun⟩

/-! ## What a batch changes -/

/-- A batch stores the record of its event and no other. -/
theorem get?_apply_batch_record (writer : Writer) (event : Event) (contents : Contents)
    (key : String) : (contents.apply (writer.batch event)).get? Record.partition key =
      if writer.next.key = key then some (writer.record event).encode
      else contents.get? Record.partition key := by
  have foreign : Record.indexPartition ≠ Record.partition :=
    Record.partition_ne_indexPartition.symm
  rw [batch, Index.stage]
  split
  · rw [Contents.apply_cons, Contents.apply_cons, Contents.apply_nil, Contents.get?_put,
      if_neg fun same => foreign same.1, Contents.get?_put]
    simp only [recordPut, true_and]
    rfl
  · rw [Contents.apply_cons, Contents.apply_nil, Contents.get?_put]
    simp only [recordPut, true_and]
    rfl

/-- A batch sets down the index entry of its event if one is due, and no other. -/
theorem get?_apply_batch_entry (writer : Writer) (event : Event) (contents : Contents)
    (messageId : MessageId) :
    (contents.apply (writer.batch event)).get? Record.indexPartition messageId =
      if writer.index.needs (writer.record event) = true ∧
          (writer.record event).messageId = messageId
      then some (Utf8.encode writer.next.key)
      else contents.get? Record.indexPartition messageId := by
  rw [batch, Index.stage]
  split
  next due =>
    have kept :
        (contents.put (recordPut (writer.record event))).get? Record.indexPartition messageId
          = contents.get? Record.indexPartition messageId := by
      rw [Contents.get?_put, if_neg fun same => Record.partition_ne_indexPartition same.1]
    rw [Contents.apply_cons, Contents.apply_cons, Contents.apply_nil, Contents.get?_put, kept]
    simp only [Index.entry, due, true_and]
    rfl
  next known =>
    rw [Contents.apply_cons, Contents.apply_nil, Contents.get?_put,
      if_neg fun same => Record.partition_ne_indexPartition same.1,
      if_neg fun due => known due.1]

/-- The number of the record becomes the last key. -/
theorem keys_apply_batch (writer : Writer) (event : Event) (contents : Contents) :
    (contents.apply (writer.batch event)).keys Record.partition
      = (contents.keys Record.partition).filter (fun key => !key == writer.next.key)
        ++ [writer.next.key] := by
  have first := Contents.keys_put_self contents (recordPut (writer.record event))
  rw [batch, Index.stage]
  split
  · rw [Contents.apply_cons, Contents.apply_cons, Contents.apply_nil,
      Contents.keys_put_other Record.partition_ne_indexPartition.symm]
    exact first
  · exact first

/-! ## What all batches of a writer store -/

/-- Contents in which records were stored, over what was there before. -/
structure Stores (base contents : Contents) (records : List Record) : Prop where
  record : ∀ key, contents.get? Record.partition key =
    ((records.find? fun record => record.id.key == key).map Record.encode).or
      (base.get? Record.partition key)
  entry : ∀ messageId, contents.get? Record.indexPartition messageId =
    ((Record.firstSent? records messageId).map fun record => Utf8.encode record.id.key).or
      (base.get? Record.indexPartition messageId)
  keys : contents.keys Record.partition =
    (base.keys Record.partition).filter
        (fun key => !(records.map fun record => record.id.key).contains key)
      ++ records.map fun record => record.id.key

/-- Without records nothing is stored over the base. -/
theorem Stores.nil (base : Contents) : Stores base base [] where
  record _ := rfl
  entry _ := rfl
  keys := by
    have all : (base.keys Record.partition).filter
        (fun key => !(([] : List Record).map fun record => record.id.key).contains key)
        = base.keys Record.partition := List.filter_eq_self.2 fun _ _ => rfl
    rw [all]
    exact (List.append_nil _).symm

section Batch

variable {base contents : Contents} {records : List Record} {writer : Writer}
  (stores : Stores base contents records)

include stores

/-- The record of one more batch is found under its number, which is new. -/
theorem Stores.record_apply_batch
    (unused : ∀ record ∈ records, record.id.key ≠ writer.next.key) (event : Event)
    (key : String) :
    (contents.apply (writer.batch event)).get? Record.partition key =
      (((records ++ [writer.record event]).find? fun record => record.id.key == key).map
        Record.encode).or (base.get? Record.partition key) := by
  rw [get?_apply_batch_record, List.find?_append]
  split
  next here =>
    subst here
    have last : [writer.record event].find? (fun record => record.id.key == writer.next.key)
        = some (writer.record event) :=
      List.find?_cons_of_pos (beq_self_eq_true _)
    rw [Record.find?_key_eq_none unused, last]
    rfl
  next elsewhere =>
    have other : [writer.record event].find? (fun record => record.id.key == key) = none :=
      Record.find?_key_eq_none fun record present =>
        List.mem_singleton.1 present ▸ elsewhere
    rw [stores.record, other, Option.or_none]

/-- An index entry is added if the record is the first sent one of its message id, which the
writer can tell. -/
theorem Stores.entry_apply_batch
    (known : ∀ messageId, writer.index.contains messageId = true ↔
      (Record.firstSent? records messageId).isSome = true) (event : Event)
    (messageId : MessageId) :
    (contents.apply (writer.batch event)).get? Record.indexPartition messageId =
      ((Record.firstSent? (records ++ [writer.record event]) messageId).map fun record =>
        Utf8.encode record.id.key).or (base.get? Record.indexPartition messageId) := by
  rw [get?_apply_batch_entry, Record.firstSent?_concat]
  have needs : writer.index.needs (writer.record event) = true ↔
      (writer.record event).isIndexable = true ∧
        ¬writer.index.contains (writer.record event).messageId = true := by
    simp [Index.needs]
  split
  next due =>
    obtain ⟨needed, rfl⟩ := due
    obtain ⟨sent, new⟩ := needs.1 needed
    have absent : Record.firstSent? records (writer.record event).messageId = none := by
      simpa [known] using new
    rw [absent, if_pos ⟨sent, rfl⟩]
    rfl
  next spared =>
    rw [stores.entry]
    split
    next here =>
      obtain ⟨sent, rfl⟩ := here
      have before :
          (Record.firstSent? records (writer.record event).messageId).isSome = true := by
        rw [← known]
        exact Decidable.not_not.1 fun new => spared ⟨needs.2 ⟨sent, new⟩, rfl⟩
      obtain ⟨first, found⟩ := Option.isSome_iff_exists.1 before
      rw [found]
      rfl
    next => rw [Option.or_none]

/-- The number of the record is the last key, and of the earlier ones none is lost. -/
theorem Stores.keys_apply_batch
    (unused : ∀ record ∈ records, record.id.key ≠ writer.next.key) (event : Event) :
    (contents.apply (writer.batch event)).keys Record.partition =
      (base.keys Record.partition).filter (fun key =>
          !((records ++ [writer.record event]).map fun record => record.id.key).contains key)
        ++ (records ++ [writer.record event]).map fun record => record.id.key := by
  have kept : (records.map fun record => record.id.key).filter
      (fun key => !key == writer.next.key) = records.map fun record => record.id.key := by
    rw [List.filter_eq_self]
    intro key present
    obtain ⟨record, earlier, rfl⟩ := List.mem_map.1 present
    simpa using unused record earlier
  rw [Writer.keys_apply_batch, stores.keys, List.filter_append, kept, List.filter_filter,
    List.map_append, List.append_assoc]
  congr 1
  refine List.filter_congr fun key _ => ?_
  have last : ([writer.record event].map fun record => record.id.key).contains key
      = (key == writer.next.key) := by
    rw [List.map_singleton, List.contains_cons, List.contains_nil, Bool.or_false]
    rfl
  rw [List.contains_append, last, Bool.not_or, Bool.and_comm]

/-- One more batch stores one more record, if its number is new and the writer knows the message ids
that have an entry. -/
theorem Stores.apply_batch
    (unused : ∀ record ∈ records, record.id.key ≠ writer.next.key)
    (known : ∀ messageId, writer.index.contains messageId = true ↔
      (Record.firstSent? records messageId).isSome = true) (event : Event) :
    Stores base (contents.apply (writer.batch event)) (records ++ [writer.record event]) where
  record := stores.record_apply_batch unused event
  entry := stores.entry_apply_batch known event
  keys := stores.keys_apply_batch unused event

end Batch

/-- The batches of a new writer store the records of its events, each under its number. -/
theorem stores_batches (attempts : Nat) (base : Contents) {events : List Event}
    (fits : events.length < 2 ^ 64) :
    Stores base (base.applyAll ((new attempts).batches events)) (Record.numbered events) := by
  induction events using List.reverseRecOn with
  | nil => exact .nil base
  | append_singleton earlier event ih =>
    rw [List.length_append, List.length_singleton] at fits
    have next := next_acknowledgedAll attempts earlier
    have step : base.applyAll ((new attempts).batches (earlier ++ [event]))
        = (base.applyAll ((new attempts).batches earlier)).apply
          (((new attempts).acknowledgedAll earlier).batch event) := by
      rw [batches_concat, Contents.applyAll, List.foldl_append]
      rfl
    have unused : ∀ record ∈ Record.numbered earlier,
        record.id.key ≠ ((new attempts).acknowledgedAll earlier).next.key := by
      intro record present same
      rw [next] at same
      rw [← Record.length_numbered earlier] at fits same
      exact (Record.fromOne_numbered (by rw [← Record.length_numbered]; omega)).id_ne_next fits
        present (RecordId.key_injective same)
    rw [step, Record.numbered_concat, ← next]
    exact (ih (by omega)).apply_batch unused (contains_acknowledgedAll attempts earlier) event

end Writer

end CausalTrace
