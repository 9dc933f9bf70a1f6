import CausalTrace.Record
import CausalTrace.Storage.Batch

/-!
# Which messages have an index entry

A writer stages an index entry together with the first sent record of each message id, and
remembers an id only once a store has acknowledged such a batch.  Until then every attempt
stages the entry again, so a record can never be stored without its entry.
-/

namespace CausalTrace

/-- The message ids whose index entry has been acknowledged. -/
structure Index where
  confirmed : List MessageId
  deriving DecidableEq, Repr, Inhabited

namespace Index

/-- No id yet. -/
def empty : Index := ⟨[]⟩

/-- Whether the entry of an id has been acknowledged. -/
def contains (index : Index) (messageId : MessageId) : Bool :=
  index.confirmed.contains messageId

/-- Whether a record needs an entry of its own. -/
def needs (index : Index) (record : Record) : Bool :=
  record.isIndexable && !index.contains record.messageId

/-- The index entry of a record. -/
def entry (record : Record) : Put :=
  ⟨Record.indexPartition, record.messageId, Utf8.encode (RecordId.key record.id)⟩

/-- The entry that has to go along with a record, if any. -/
def stage (index : Index) (record : Record) : Batch :=
  if index.needs record then [entry record] else []

/-- Remembers that the entry of an id has been acknowledged. -/
def confirm (index : Index) (messageId : MessageId) : Index :=
  if index.contains messageId then index else ⟨index.confirmed ++ [messageId]⟩

/-- How many ids there are. -/
def size (index : Index) : Nat := index.confirmed.length

end Index

end CausalTrace
