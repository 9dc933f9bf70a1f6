import CausalTrace.Record
import CausalTrace.Storage.Batch
import CausalTrace.TraceError

/-!
# Questions to a store

Records are found by their number, through the index by their message id, or by a scan over all
of them in the order of their numbers.  The walk to the root of a chain looks up first parents;
it ends because every message id is looked up at most once and only ids with an index entry
lead on.
-/

namespace CausalTrace.Inspect

/-- The failure for a stored document that is no record. -/
def unreadable : TraceError := .serialization "stored document is not a record"

/-- The record of a number. -/
def record (contents : Contents) (id : RecordId) : Except TraceError (Option Record) :=
  match contents.get? Record.partition id.key with
  | none => .ok none
  | some stored =>
    match Record.decode? stored with
    | some record => .ok (some record)
    | none => .error unreadable

/-- The numbers that have a key, in ascending order. -/
def ids (contents : Contents) : List RecordId :=
  ((contents.keys Record.partition).filterMap RecordId.ofKey?).mergeSort (· ≤ ·)

/-- The records of numbers in order; a number without a record is passed over. -/
def recordsOf (contents : Contents) : List RecordId → Except TraceError (List Record)
  | [] => .ok []
  | id :: rest => do
    let found ← record contents id
    let others ← recordsOf contents rest
    return found.toList ++ others

/-- All records in the order of their numbers. -/
def records (contents : Contents) : Except TraceError (List Record) :=
  recordsOf contents (ids contents)

/-- How many keys the records have. -/
def count (contents : Contents) : Nat :=
  contents.count Record.partition

/-- The number that the index gives for a message id. -/
def locate (contents : Contents) (messageId : MessageId) : Option RecordId :=
  ((contents.get? Record.indexPartition messageId).bind Utf8.decode?).bind RecordId.ofKey?

/-- The record that the index gives for a message id. -/
def lookup (contents : Contents) (messageId : MessageId) : Except TraceError (Option Record) :=
  match locate contents messageId with
  | some id => record contents id
  | none => .ok none

/-- The ids other than one. -/
def others (unseen : List MessageId) (messageId : MessageId) : List MessageId :=
  unseen.filter (· ≠ messageId)

/-- Leaving out an id that was there makes a list shorter. -/
theorem others_length_lt {unseen : List MessageId} {messageId : MessageId}
    (known : messageId ∈ unseen) : (others unseen messageId).length < unseen.length := by
  rw [others, List.length_filter_lt_length_iff_exists]
  exact ⟨messageId, known, by simp⟩

/-- Walks from a message through first parents.  `unseen` holds the index keys that were not yet
looked up; an id that is not among them leads nowhere or was met before. -/
def chainFrom (contents : Contents) (unseen : List MessageId) (messageId : MessageId) :
    Except TraceError (List Record) :=
  if _known : messageId ∈ unseen then
    match lookup contents messageId with
    | .error failure => .error failure
    | .ok none => .ok []
    | .ok (some found) =>
      match found.parents with
      | [] => .ok [found]
      | parent :: _ =>
        (chainFrom contents (others unseen messageId) parent).map (found :: ·)
  else .ok []
termination_by unseen.length
decreasing_by exact others_length_lt ‹_›

/-- The records from a message back to the start of its chain. -/
def chain (contents : Contents) (messageId : MessageId) : Except TraceError (List Record) :=
  chainFrom contents (contents.keys Record.indexPartition) messageId

/-- The sent records that name a message as a parent. -/
def children (contents : Contents) (messageId : MessageId) : Except TraceError (List Record) :=
  (records contents).map fun all =>
    all.filter fun record => record.direction = .sent && record.parents.contains messageId

/-- The received records of a message. -/
def deliveries (contents : Contents) (messageId : MessageId) : Except TraceError (List Record) :=
  (records contents).map fun all =>
    all.filter fun record => record.direction = .received && record.messageId = messageId

end CausalTrace.Inspect
