import CausalTrace.Storage.Batch
import CausalTrace.Storage.Checksum
import CausalTrace.Text.Decimal

/-!
# Frames

A frame is the form of one batch in a log: the length of its payload, the checksum of its
payload, the payload.  The payload counts its puts and writes each as three fields that state
their own length.  All numbers are little endian.

Decoding looks only at the bytes it consumes.  It tells three cases apart: the bytes start with
a frame, they may be the beginning of one, or no continuation can make them one.
-/

namespace CausalTrace.Frame

/-! ## Numbers -/

/-- A number in a given count of bytes, lowest first. -/
def number : Nat → Nat → Bytes
  | 0, _ => []
  | width + 1, n => UInt8.ofNat (n % 256) :: number width (n / 256)

/-- The number of a run of bytes, lowest first. -/
def value : Bytes → Nat
  | [] => 0
  | byte :: rest => byte.toNat + 256 * value rest

/-! ## Writing -/

/-- The size of the part in front of the payload. -/
def headSize : Nat := 8

/-- The size that no payload exceeds. -/
def payloadLimit : Nat := 64 * 1024 * 1024

/-- Why a batch has no frame. -/
inductive Refusal where
  | partitionTooLong
  | lengthTooLarge
  | frameTooLarge
  deriving DecidableEq, Repr, Inhabited

/-- The wording of a refusal. -/
def Refusal.message : Refusal → String
  | partitionTooLong => "partition name too long"
  | lengthTooLarge => "length exceeds u32"
  | frameTooLarge => "batch exceeds maximum frame size"

/-- Bytes after their own length in four bytes. -/
def longField (content : Bytes) : Except Refusal Bytes :=
  if content.length < 2 ^ 32 then .ok (number 4 content.length ++ content)
  else .error .lengthTooLarge

/-- The name of a partition after its own length in two bytes. -/
def partitionField (content : Bytes) : Except Refusal Bytes :=
  if content.length < 2 ^ 16 then .ok (number 2 content.length ++ content)
  else .error .partitionTooLong

/-- The three fields of a put. -/
def encodePut (put : Put) : Except Refusal Bytes := do
  let partition ← partitionField (Utf8.encode put.partition)
  let key ← longField (Utf8.encode put.key)
  let content ← longField put.value
  return partition ++ key ++ content

/-- The fields of puts in order. -/
def encodePuts : Batch → Except Refusal Bytes
  | [] => .ok []
  | put :: rest => do
    let first ← encodePut put
    let others ← encodePuts rest
    return first ++ others

/-- The payload of a batch. -/
def encodePayload (batch : Batch) : Except Refusal Bytes :=
  if batch.length < 2 ^ 32 then
    (encodePuts batch).map fun puts => number 4 batch.length ++ puts
  else .error .lengthTooLarge

/-- A payload with its length and its checksum in front. -/
def enclose (payload : Bytes) : Bytes :=
  number 4 payload.length ++ number 4 (Checksum.crc32 payload) ++ payload

/-- The frame of a batch. -/
def encode (batch : Batch) : Except Refusal Bytes := do
  let payload ← encodePayload batch
  if payload.length ≤ payloadLimit then return enclose payload else throw .frameTooLarge

/-! ## Reading -/

/-- What is wrong with a frame that cannot be continued to a good one. -/
inductive Damage where
  | tooLarge (length : Nat)
  | checksum (expected actual : Nat)
  /-- The payload ends inside a number. -/
  | truncated
  /-- A field states a length beyond the end of the payload. -/
  | overrun
  /-- A partition or a key is not text. -/
  | notText
  /-- The payload goes on after its last put. -/
  | trailing
  deriving DecidableEq, Repr, Inhabited

/-- The wording of a damage. -/
def Damage.message : Damage → String
  | tooLarge length => "frame length " ++ Decimal.render length ++ " too large"
  | checksum expected actual =>
    "checksum mismatch: expected " ++ Decimal.paddedHex 8 expected
      ++ ", got " ++ Decimal.paddedHex 8 actual
  | truncated => "failed to fill whole buffer"
  | overrun => "field overruns frame"
  | notText => "field is not UTF-8"
  | trailing => "trailing bytes in frame"

/-- Why bytes do not start with a frame. -/
inductive Fault where
  /-- There are `present` bytes, and a frame needs at least `needed`. -/
  | incomplete (present needed : Nat)
  | corrupt (damage : Damage)
  deriving DecidableEq, Repr, Inhabited

/-- A number of a given width and the bytes after it. -/
def readNumber (width : Nat) (bytes : Bytes) : Except Damage (Nat × Bytes) :=
  let found := bytes.take width
  if found.length < width then .error .truncated else .ok (value found, bytes.drop width)

/-- A field of a given length and the bytes after it. -/
def readField (length : Nat) (bytes : Bytes) : Except Damage (Bytes × Bytes) :=
  let found := bytes.take length
  if found.length < length then .error .overrun else .ok (found, bytes.drop length)

/-- A field whose length stands in front of it, in a number of a given width. -/
def readSized (width : Nat) (bytes : Bytes) : Except Damage (Bytes × Bytes) := do
  let (length, rest) ← readNumber width bytes
  readField length rest

/-- A field that must be text. -/
def readText (width : Nat) (bytes : Bytes) : Except Damage (String × Bytes) := do
  let (content, rest) ← readSized width bytes
  match Utf8.decode? content with
  | some text => return (text, rest)
  | none => throw .notText

/-- A put and the bytes after it. -/
def decodePut (bytes : Bytes) : Except Damage (Put × Bytes) := do
  let (partition, rest) ← readText 2 bytes
  let (key, rest) ← readText 4 rest
  let (content, rest) ← readSized 4 rest
  return (⟨partition, key, content⟩, rest)

/-- A given count of puts and the bytes after them. -/
def decodePuts : Nat → Bytes → Except Damage (Batch × Bytes)
  | 0, bytes => .ok ([], bytes)
  | count + 1, bytes => do
    let (put, rest) ← decodePut bytes
    let (others, rest) ← decodePuts count rest
    return (put :: others, rest)

/-- The batch of a whole payload. -/
def decodePayload (payload : Bytes) : Except Damage Batch := do
  let (count, rest) ← readNumber 4 payload
  let (batch, rest) ← decodePuts count rest
  if rest = [] then return batch else throw .trailing

/-- The batch of the frame at the head of the bytes, and the size of that frame. -/
def decode (bytes : Bytes) : Except Fault (Batch × Nat) :=
  let front := bytes.take headSize
  if front.length < headSize then .error (.incomplete bytes.length headSize)
  else
    let length := value (front.take 4)
    let expected := value (front.drop 4)
    let payload := (bytes.drop headSize).take length
    if payloadLimit < length then .error (.corrupt (.tooLarge length))
    else if payload.length < length then
      .error (.incomplete bytes.length (headSize + length))
    else
      let actual := Checksum.crc32 payload
      if actual ≠ expected then .error (.corrupt (.checksum expected actual))
      else
        match decodePayload payload with
        | .error damage => .error (.corrupt damage)
        | .ok batch => .ok (batch, headSize + length)

/-- Where the frame at the head of the bytes claims to end, if its length can be read. -/
def claimedSize? (bytes : Bytes) : Option Nat :=
  if bytes.length < headSize then none else some (headSize + value (bytes.take 4))

/-- A decoded frame has its head and lies within the bytes. -/
theorem decode_size {bytes : Bytes} {batch : Batch} {size : Nat}
    (decoded : decode bytes = .ok (batch, size)) : headSize ≤ size ∧ size ≤ bytes.length := by
  unfold decode at decoded
  simp only at decoded
  split at decoded
  · simp at decoded
  · split at decoded
    · simp at decoded
    · split at decoded
      · simp at decoded
      · split at decoded
        · simp at decoded
        · split at decoded
          · simp at decoded
          · injection decoded with same
            injection same with _ same
            simp only [List.length_take, List.length_drop, headSize] at *
            omega

end CausalTrace.Frame
