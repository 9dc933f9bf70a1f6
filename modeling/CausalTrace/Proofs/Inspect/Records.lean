import CausalTrace.Inspect
import CausalTrace.Proofs.Record.Stored

/-!
# What an inspector finds

The records of a store are listed by their numbers, in whatever order their keys were put.  A
message id is looked up through the number in its index entry, so what is found is whatever record
stands under that number now.
-/

namespace CausalTrace.Inspect

variable {contents : Contents}

/-- A stored record is found under its number. -/
theorem record_stored {record : Record}
    (stored : contents.get? Record.partition record.id.key = some record.encode) :
    Inspect.record contents record.id = .ok (some record) := by
  simp only [Inspect.record, stored, Record.decode?_encode]

/-- The numbers of stored records are read as these records, in the same order. -/
theorem recordsOf_stored {records : List Record}
    (stored : ∀ record ∈ records,
      contents.get? Record.partition record.id.key = some record.encode) :
    recordsOf contents (records.map Record.id) = .ok records := by
  induction records with
  | nil => rfl
  | cons record rest ih =>
    have first := record_stored (stored record (by simp))
    have others := ih fun other present => stored other (List.mem_cons_of_mem _ present)
    rw [List.map_cons, recordsOf, first]
    change (recordsOf contents (rest.map Record.id) >>= _) = _
    rw [others]
    rfl

/-- Numbers come out in ascending order. -/
theorem ids_ascending (contents : Contents) : (ids contents).Pairwise (· ≤ ·) := by
  have sorted : (ids contents).Pairwise fun left right => decide (left ≤ right) = true := by
    refine List.pairwise_mergeSort ?_ ?_ _
    · intro first second third
      simpa using UInt64.le_trans
    · intro left right
      simpa using UInt64.le_total left right
  exact sorted.imp of_decide_eq_true

/-- Where the keys are those of numbers, these are what comes out. -/
theorem ids_of_keys {numbers : List RecordId}
    (keys : (contents.keys Record.partition).Perm (numbers.map RecordId.key))
    (ascending : numbers.Pairwise (· < ·)) : ids contents = numbers := by
  have read : (numbers.map RecordId.key).filterMap RecordId.ofKey? = numbers := by
    rw [List.filterMap_map]
    simp only [Function.comp_def, RecordId.ofKey?_key, List.filterMap_some]
  have found : ((contents.keys Record.partition).filterMap RecordId.ofKey?).Perm numbers := by
    simpa only [read] using keys.filterMap RecordId.ofKey?
  refine List.Perm.eq_of_pairwise ?_ (ids_ascending contents) (ascending.imp UInt64.le_of_lt)
    ((List.mergeSort_perm _ _).trans found)
  intro left right _ _ one other
  exact UInt64.le_antisymm one other

/-- The records of a store are listed whole and in the order of their numbers. -/
theorem records_stored {found : List Record}
    (keys : (contents.keys Record.partition).Perm (found.map fun record => record.id.key))
    (ascending : (found.map Record.id).Pairwise (· < ·))
    (stored : ∀ record ∈ found,
      contents.get? Record.partition record.id.key = some record.encode) :
    records contents = .ok found := by
  have numbers : (contents.keys Record.partition).Perm
      ((found.map Record.id).map RecordId.key) := by
    rw [List.map_map]
    exact keys
  rw [records, ids_of_keys numbers ascending, recordsOf_stored stored]

/-- A message id leads to the record that stands under the number of its index entry. -/
theorem lookup_entry {messageId : MessageId} {record : Record}
    (entry : contents.get? Record.indexPartition messageId = some (Utf8.encode record.id.key))
    (stored : contents.get? Record.partition record.id.key = some record.encode) :
    lookup contents messageId = .ok (some record) := by
  have located : locate contents messageId = some record.id := by
    rw [locate, entry, Option.bind_some, Utf8.decode?_encode, Option.bind_some,
      RecordId.ofKey?_key]
  rw [lookup, located]
  exact record_stored stored

end CausalTrace.Inspect
