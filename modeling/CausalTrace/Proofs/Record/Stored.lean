import CausalTrace.Proofs.Json.Reading
import CausalTrace.Record

/-!
# Stored records

A record is read back from its stored document in every field, and a record number from its key.
Both hold for every record and every number, so different records are stored as different bytes and
different numbers under different keys.
-/

namespace CausalTrace

open Json

namespace RecordId

/-- A key stands for the number it was made from. -/
@[simp] theorem ofKey?_key (id : RecordId) : ofKey? id.key = some id := by
  rw [ofKey?, key, Decimal.parse?_render id.toNat_lt, Option.map_some, UInt64.ofNat_toNat]

/-- Different numbers have different keys. -/
theorem key_injective {left right : RecordId} (same : left.key = right.key) : left = right := by
  have number := congrArg ofKey? same
  rwa [ofKey?_key, ofKey?_key, Option.some.injEq] at number

end RecordId

@[simp] theorem Direction.ofWord?_word (direction : Direction) :
    ofWord? direction.word = some direction := by
  cases direction <;> rfl

namespace Record

/-- A record is written as a value that can be read back. -/
theorem plain_toValue (record : Record) : record.toValue.Plain := by
  refine .object fun member present => ?_
  simp only [List.mem_cons, List.not_mem_nil, or_false] at present
  rcases present with rfl | rfl | rfl | rfl | rfl | rfl | rfl | rfl | rfl | rfl
  · exact .integer _
  · exact .text _
  · exact .texts _
  · exact .text _
  · exact .text _
  · exact .integer _
  · exact .text _
  · exact .text _
  · exact .text _
  · exact .text _

/-- The fields of a record in a document of it. -/
def fields (record : Record) : List (Option Document) :=
  [some (.numeral (.ofInt record.id.toNat)), some (.text (some record.messageId)),
    some (Value.texts record.parents).document, some (.text (some record.label)),
    some (.text (some record.direction.word)), some (.numeral (.ofInt record.time.toInt)),
    some (.text (some record.address)), some (.text (some record.reply)),
    some (.text (some record.headers)), some (.text (some record.body))]

/-- A document with these fields is read as the record, in whatever order it has them. -/
theorem ofDocument?_of_fields {record : Record} {document : Document}
    (found : document.fields? fieldNames = some record.fields) :
    ofDocument? document = some record := by
  have id : RecordId.ofDocument? (.numeral (.ofInt record.id.toNat)) = some record.id := by
    rw [RecordId.ofDocument?, Document.natural?_numeral record.id.toNat_lt, Option.map_some,
      UInt64.ofNat_toNat]
  have least := record.time.le_toInt
  have most := record.time.toInt_lt
  have time : (Document.numeral (.ofInt record.time.toInt)).integer? (-2 ^ 63) (2 ^ 63 - 1)
      = some record.time.toInt :=
    Document.integer?_numeral (by omega) (by omega) (by omega)
  have direction : Direction.ofDocument? (.text (some record.direction.word))
      = some record.direction := by
    simp [Direction.ofDocument?, Document.variant?]
  rw [ofDocument?, found, fields]
  simp only [Option.bind_eq_bind, Option.bind_some, Option.pure_def, id, time, direction,
    Document.listOf?_texts, Document.text?, Int64.ofInt_toInt]

/-- The document of a record has each field once, under its own name. -/
theorem ofDocument?_document (record : Record) :
    ofDocument? record.toValue.document = some record :=
  ofDocument?_of_fields rfl

/-- A stored record is read back in every field. -/
@[simp] theorem decode?_encode (record : Record) : decode? record.encode = some record := by
  rw [decode?, encode, toText, Document.ofBytes?_encode record.plain_toValue, Option.bind_some,
    ofDocument?_document]

/-- Nothing of a record is lost when it is stored: it is read back whole, so different records are
stored as different bytes. -/
theorem stored_losslessly (record : Record) :
    decode? record.encode = some record ∧
      ∀ other : Record, other ≠ record → other.encode ≠ record.encode := by
  refine ⟨decode?_encode record, fun other differs same => differs ?_⟩
  have read := congrArg decode? same
  rwa [decode?_encode, decode?_encode, Option.some.injEq] at read

end Record

end CausalTrace
