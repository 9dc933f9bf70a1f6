import CausalTrace.Message.Event
import CausalTrace.Text.Utf8

/-!
# Trace records

A record is the durable form of an event under a number of its own.  It is stored as a document
whose field names are fixed; reading a stored document gives back every field.

Records live in two partitions of a store: under their number in `Record.partition`, and, for
sent messages with an id, the number once more under that id in `Record.indexPartition`.
-/

namespace CausalTrace

/-- The number of a record. -/
abbrev RecordId := UInt64

namespace RecordId

/-- The key under which a record is stored. -/
def key (id : RecordId) : String :=
  Decimal.render id.toNat

/-- The number that a key stands for.  Other spellings than `key` gives are understood too. -/
def ofKey? (key : String) : Option RecordId :=
  (Decimal.parse? (2 ^ 64) key).map UInt64.ofNat

/-- Reads a record number from a document. -/
def ofDocument? (document : Json.Document) : Option RecordId :=
  document.natural?.map UInt64.ofNat

end RecordId

/-- The durable form of an event. -/
structure Record where
  id : RecordId
  /-- Empty if the message came without a readable identity. -/
  messageId : MessageId
  parents : List MessageId
  /-- Empty if there was none. -/
  label : String
  direction : Direction
  time : Int64
  address : String
  /-- Empty if no reply was expected. -/
  reply : String
  /-- The text of the headers without the reserved one. -/
  headers : String
  body : String
  deriving DecidableEq, Repr, Inhabited

namespace Record

/-- The partition that holds a document for each record number. -/
def partition : String := "records"

/-- The partition that holds the number of the sent record of each message id. -/
def indexPartition : String := "correlation"

/-- The record of an event. -/
def ofEvent (id : RecordId) (event : Event) : Record where
  id := id
  messageId := (event.causality.map Causality.id).getD ""
  parents := (event.causality.map Causality.parents).getD []
  label := (event.causality.bind Causality.label).getD ""
  direction := event.direction
  time := event.time
  address := event.message.address
  reply := event.message.reply.getD ""
  headers := (event.message.headers.without Causality.headerName).toText
  body := event.message.body

/-- Whether the record is to be found under its message id. -/
def isIndexable (record : Record) : Bool :=
  record.direction = .sent && record.messageId ≠ ""

/-- The names of the fields in written order. -/
def fieldNames : List String :=
  ["record_id", "message_id", "parent_ids", "label", "direction", "timestamp",
    "target_address", "reply_address", "headers", "body"]

/-- The record as a value to be written. -/
def toValue (record : Record) : Json.Value :=
  .object [
    ("record_id", .integer record.id.toNat),
    ("message_id", .text record.messageId),
    ("parent_ids", .texts record.parents),
    ("label", .text record.label),
    ("direction", .text record.direction.word),
    ("timestamp", .integer record.time.toInt),
    ("target_address", .text record.address),
    ("reply_address", .text record.reply),
    ("headers", .text record.headers),
    ("body", .text record.body)]

/-- The text of the stored document. -/
def toText (record : Record) : String :=
  record.toValue.render

/-- The stored document. -/
def encode (record : Record) : Bytes :=
  Utf8.encode record.toText

/-- Reads a record from a document; every field must be there. -/
def ofDocument? (document : Json.Document) : Option Record := do
  let [some id, some messageId, some parents, some label, some direction, some time,
    some address, some reply, some headers, some body] ← document.fields? fieldNames | none
  return {
    id := ← RecordId.ofDocument? id
    messageId := ← messageId.text?
    parents := ← parents.listOf? Json.Document.text?
    label := ← label.text?
    direction := ← Direction.ofDocument? direction
    time := Int64.ofInt (← time.integer? (-2 ^ 63) (2 ^ 63 - 1))
    address := ← address.text?
    reply := ← reply.text?
    headers := ← headers.text?
    body := ← body.text? }

/-- Reads a stored document. -/
def decode? (stored : Bytes) : Option Record :=
  (Json.Document.ofBytes? stored).bind ofDocument?

end Record

end CausalTrace
