/-!
# Text and bytes

Stored values, frames and files are byte strings; names, bodies and records are text.
This module is the only crossing between the two.  `Utf8.decode?` is the exact inverse of
`Utf8.encode`; `Utf8.symbols` reads any byte string at all, and keeps a place for every byte
that belongs to no character, because readers of a document may step over such a byte but
must not accept it as text.
-/

namespace CausalTrace

/-- A byte string, as files, frames and stored values hold it. -/
abbrev Bytes := List UInt8

namespace Utf8

/-- The bytes of a text. -/
def encode (text : String) : Bytes :=
  text.toByteArray.data.toList

/-- The text of a byte string, if it is well formed throughout. -/
def decode? (bytes : Bytes) : Option String :=
  String.fromUTF8? ⟨bytes.toArray⟩

/-- Reading back the bytes of a text gives the text. -/
@[simp] theorem decode?_encode (text : String) : decode? (encode text) = some text := by
  have bytes : (⟨(encode text).toArray⟩ : ByteArray) = text.toByteArray := by simp [encode]
  rw [decode?, bytes, String.fromUTF8?, dif_pos text.isValidUTF8]
  rfl

/-- A byte string that reads as a text is the bytes of that text. -/
theorem encode_of_decode? {bytes : Bytes} {text : String} (reads : decode? bytes = some text) :
    encode text = bytes := by
  simp only [decode?, String.fromUTF8?] at reads
  split at reads
  · cases reads
    simp [encode, String.fromUTF8]
  · simp at reads

/-- The first character of a byte string, if one stands there. -/
def head? (bytes : Bytes) : Option Char :=
  ByteArray.utf8DecodeChar? ⟨(bytes.take 4).toArray⟩ 0

/-- One place per character, and one empty place per byte that belongs to no character. -/
def scan (bytes : Bytes) : List (Option Char) :=
  match bytes with
  | [] => []
  | byte :: rest =>
    match head? (byte :: rest) with
    | some c => some c :: scan (rest.drop (c.utf8Size - 1))
    | none => none :: scan rest
termination_by bytes.length
decreasing_by
  · simp only [List.length_drop, List.length_cons]
    omega
  · simp only [List.length_cons, Nat.lt_add_one]

/-- The places of a byte string.  Well-formed text is its characters. -/
def symbols (bytes : Bytes) : List (Option Char) :=
  match decode? bytes with
  | some text => text.toList.map some
  | none => scan bytes

/-- The bytes of a text have exactly the places of its characters. -/
@[simp] theorem symbols_encode (text : String) :
    symbols (encode text) = text.toList.map some := by
  simp [symbols]

end Utf8

end CausalTrace
