import CausalTrace.Proofs.Storage.Frames

/-!
# One form for each batch

Reading is exact in both directions.  What is written for a batch is read as that batch, and
whatever is read as a batch is what is written for it: no two forms of a frame stand for one batch,
and no frame is accepted that the writer would not have written.  Each reader has a lemma that says
which bytes it has taken; a field is taken in the one form in which it is written, because its
length is a number of a fixed width and its text has one encoding.
-/

namespace CausalTrace.Frame

variable {bytes rest : Bytes}

/-! ## What a reader has taken -/

/-- Bytes spell a number below the power that their length has room for. -/
theorem value_lt (bytes : Bytes) : value bytes < 256 ^ bytes.length := by
  induction bytes with
  | nil => exact Nat.one_pos
  | cons byte rest ih =>
    have small := byte.toNat_lt
    rw [value, List.length_cons, Nat.pow_succ]
    omega

/-- A number was taken in the one form that it has in its width. -/
theorem readNumber_ok {width found : Nat} (read : readNumber width bytes = .ok (found, rest)) :
    found < 256 ^ width ∧ bytes = number width found ++ rest := by
  simp only [readNumber] at read
  split at read
  next => cases read
  next full =>
    cases read
    have taken : (bytes.take width).length = width :=
      Nat.le_antisymm (List.length_take_le _ _) (Nat.le_of_not_lt full)
    have small := value_lt (bytes.take width)
    have written := number_value (bytes.take width)
    rw [taken] at small written
    exact ⟨small, by rw [written, List.take_append_drop]⟩

/-- A field that was read is the beginning of the bytes. -/
theorem readField_ok {length : Nat} {found : Bytes}
    (read : readField length bytes = .ok (found, rest)) :
    found.length = length ∧ bytes = found ++ rest := by
  simp only [readField] at read
  split at read
  next => cases read
  next full =>
    cases read
    exact ⟨Nat.le_antisymm (List.length_take_le _ _) (Nat.le_of_not_lt full),
      (List.take_append_drop _ _).symm⟩

/-- A sized field that was read is written back as its length and content. -/
theorem readSized_ok {width : Nat} {found : Bytes}
    (read : readSized width bytes = .ok (found, rest)) :
    found.length < 256 ^ width ∧ bytes = number width found.length ++ found ++ rest := by
  obtain ⟨⟨length, after⟩, lengthRead, fieldRead⟩ := of_bind_ok read
  obtain ⟨fits, rfl⟩ := readNumber_ok lengthRead
  obtain ⟨rfl, rfl⟩ := readField_ok fieldRead
  exact ⟨fits, (List.append_assoc _ _ _).symm⟩

/-- A text that was read is written back as its length and encoding. -/
theorem readText_ok {width : Nat} {found : String}
    (read : readText width bytes = .ok (found, rest)) :
    (Utf8.encode found).length < 256 ^ width ∧
      bytes = number width (Utf8.encode found).length ++ Utf8.encode found ++ rest := by
  obtain ⟨⟨content, after⟩, contentRead, decoded⟩ := of_bind_ok read
  dsimp only at decoded
  split at decoded
  next text valid =>
    cases decoded
    rw [Utf8.encode_of_decode? valid]
    exact readSized_ok contentRead
  next => cases decoded

/-! ## What was taken is what is written -/

/-- A content that fits is written as a long field. -/
theorem longField_of_lt {content : Bytes} (fits : content.length < 256 ^ 4) :
    longField content = .ok (number 4 content.length ++ content) :=
  if_pos fits

/-- A content that fits is written as a field of a partition name. -/
theorem partitionField_of_lt {content : Bytes} (fits : content.length < 256 ^ 2) :
    partitionField content = .ok (number 2 content.length ++ content) :=
  if_pos fits

/-- A put that was decoded encodes to the very bytes it was decoded from. -/
theorem decodePut_ok {put : Put} (read : decodePut bytes = .ok (put, rest)) :
    ∃ written, encodePut put = .ok written ∧ bytes = written ++ rest := by
  obtain ⟨⟨partition, afterPartition⟩, partitionRead, read⟩ := of_bind_ok read
  obtain ⟨⟨key, afterKey⟩, keyRead, read⟩ := of_bind_ok read
  obtain ⟨⟨content, after⟩, contentRead, read⟩ := of_bind_ok read
  cases read
  obtain ⟨partitionFits, rfl⟩ := readText_ok partitionRead
  obtain ⟨keyFits, rfl⟩ := readText_ok keyRead
  obtain ⟨contentFits, rfl⟩ := readSized_ok contentRead
  refine ⟨number 2 (Utf8.encode partition).length ++ Utf8.encode partition
    ++ (number 4 (Utf8.encode key).length ++ Utf8.encode key)
    ++ (number 4 content.length ++ content), ?_, by simp only [List.append_assoc]⟩
  rw [encodePut, partitionField_of_lt partitionFits, ok_bind, longField_of_lt keyFits, ok_bind,
    longField_of_lt contentFits]
  rfl

/-- Puts that were decoded encode to the very bytes they were decoded from. -/
theorem decodePuts_ok {count : Nat} {batch : Batch}
    (read : decodePuts count bytes = .ok (batch, rest)) :
    batch.length = count ∧ ∃ written, encodePuts batch = .ok written ∧ bytes = written ++ rest := by
  induction count generalizing bytes batch with
  | zero =>
    cases read
    exact ⟨rfl, [], rfl, rfl⟩
  | succ count ih =>
    obtain ⟨⟨put, afterPut⟩, putRead, read⟩ := of_bind_ok read
    obtain ⟨⟨others, after⟩, othersRead, read⟩ := of_bind_ok read
    cases read
    obtain ⟨first, firstWritten, rfl⟩ := decodePut_ok putRead
    obtain ⟨rfl, later, laterWritten, rfl⟩ := ih othersRead
    refine ⟨rfl, first ++ later, ?_, (List.append_assoc _ _ _).symm⟩
    rw [encodePuts, firstWritten, ok_bind, laterWritten]
    rfl

/-- What is read as a whole payload is the payload of the batch. -/
theorem encodePayload_of_decodePayload {payload : Bytes} {batch : Batch}
    (read : decodePayload payload = .ok batch) :
    encodePayload batch = .ok payload ∧ 4 ≤ payload.length := by
  obtain ⟨⟨count, afterCount⟩, countRead, read⟩ := of_bind_ok read
  obtain ⟨⟨puts, after⟩, putsRead, read⟩ := of_bind_ok read
  dsimp only at read
  split at read
  next ended =>
    cases read
    subst ended
    obtain ⟨fits, rfl⟩ := readNumber_ok countRead
    obtain ⟨rfl, written, putsWritten, rfl⟩ := decodePuts_ok putsRead
    refine ⟨?_, by rw [List.length_append, length_number]; omega⟩
    rw [encodePayload, if_pos fits, putsWritten, List.append_nil]
    rfl
  next => cases read

/-! ## Whole frames -/

/-- Bytes with a whole head are a length, a checksum and what follows. -/
theorem eq_fields (long : headSize ≤ bytes.length) :
    (bytes.take 4).length = 4 ∧ ((bytes.drop 4).take 4).length = 4 ∧
      bytes = bytes.take 4 ++ (bytes.drop 4).take 4 ++ bytes.drop headSize := by
  rw [headSize] at long ⊢
  refine ⟨by rw [List.length_take]; omega, by rw [List.length_take, List.length_drop]; omega, ?_⟩
  have behind : bytes.drop 8 = (bytes.drop 4).drop 4 := by rw [List.drop_drop]
  rw [behind, List.append_assoc, List.take_append_drop, List.take_append_drop]

/-- Bytes that start with a frame start with the frame that is written for its batch. -/
theorem encode_of_decode {batch : Batch} {size : Nat} (decoded : decode bytes = .ok (batch, size)) :
    headSize + 4 ≤ size ∧ encode batch = .ok (bytes.take size) := by
  obtain ⟨field, sum, body, fieldWidth, sumWidth, rfl⟩ : ∃ field sum body : Bytes,
      field.length = 4 ∧ sum.length = 4 ∧ bytes = field ++ sum ++ body :=
    have ⟨head, within⟩ := decode_size decoded
    have ⟨fieldWidth, sumWidth, parts⟩ := eq_fields (Nat.le_trans head within)
    ⟨_, _, _, fieldWidth, sumWidth, parts⟩
  -- Of the ways through the decoder all but the last are refusals.
  rw [decode_append fieldWidth sumWidth] at decoded
  split at decoded
  next => cases decoded
  next limited =>
    split at decoded
    next => cases decoded
    next present =>
      split at decoded
      next => cases decoded
      next sound =>
        split at decoded
        next => cases decoded
        next payloadRead =>
          cases decoded
          obtain ⟨written, long⟩ := encodePayload_of_decodePayload payloadRead
          have length : (body.take (value field)).length = value field := by
            rw [List.length_take]
            omega
          have fieldWritten := number_value field
          have sumWritten := number_value sum
          rw [fieldWidth] at fieldWritten
          rw [sumWidth, ← Decidable.not_not.1 sound] at sumWritten
          have front : (field ++ sum).length = headSize := by
            rw [List.length_append, fieldWidth, sumWidth, headSize]
          have taken : (field ++ sum ++ body).take (headSize + value field)
              = field ++ sum ++ body.take (value field) := by
            rw [List.take_append, front, List.take_of_length_le (by omega),
              Nat.add_sub_cancel_left]
          have enclosed : enclose (body.take (value field))
              = field ++ sum ++ body.take (value field) := by
            rw [enclose, length, fieldWritten, sumWritten]
          refine ⟨by omega, ?_⟩
          rw [encode, written, ok_bind, if_pos (by omega), taken, enclosed]
          rfl

/-- A frame that is decoded from its own bytes and no others is the frame of its batch. -/
theorem decode_whole_iff {frame : Bytes} {batch : Batch} :
    decode frame = .ok (batch, frame.length) ↔ encode batch = .ok frame := by
  constructor
  · intro decoded
    have written := (encode_of_decode decoded).2
    rwa [List.take_length] at written
  · intro written
    have decoded := decode_encode written []
    rwa [List.append_nil] at decoded

/-- The frame of a batch is read as that batch and no further, and no proper beginning of it is
read as anything.  What is read as a batch has at least the size of an empty one, lies within the
bytes, and is the frame of that batch. -/
theorem reads_exactly_written :
    (∀ batch frame, encode batch = .ok frame →
        (∀ rest, decode (frame ++ rest) = .ok (batch, frame.length)) ∧
          ∀ part, part <+: frame → part ≠ frame →
            ∃ needed, decode part = .error (.incomplete part.length needed)) ∧
      ∀ bytes batch size, decode bytes = .ok (batch, size) →
        12 ≤ size ∧ size ≤ bytes.length ∧ encode batch = .ok (bytes.take size) := by
  constructor
  · intro batch frame written
    refine ⟨decode_encode written, fun part begins proper => ?_⟩
    have taken : part = frame.take part.length := List.prefix_iff_eq_take.1 begins
    have shorter : part.length < frame.length := by
      refine Nat.lt_of_le_of_ne begins.length_le fun same => proper ?_
      rw [taken, same, List.take_length]
    obtain ⟨needed, incomplete⟩ := decode_take written shorter
    rw [← taken] at incomplete
    exact ⟨needed, incomplete⟩
  · intro bytes batch size decoded
    obtain ⟨long, written⟩ := encode_of_decode decoded
    exact ⟨long, (decode_size decoded).2, written⟩

/-- A frame with one put, in front of other bytes, cut off inside, and read back. -/
theorem reads_exactly_written_onePut :
    let batch : Batch := [⟨"p", "k", [49]⟩]
    let frame : Bytes :=
      [17, 0, 0, 0, 165, 12, 178, 140, 1, 0, 0, 0, 1, 0, 112, 1, 0, 0, 0, 107, 1, 0, 0, 0, 49]
    let bytes := frame ++ [66, 84]
    encode batch = .ok frame ∧ decode (frame ++ [66, 84]) = .ok (batch, frame.length) ∧
      (∃ needed, decode (frame.take 9) = .error (.incomplete 9 needed)) ∧
        12 ≤ frame.length ∧ frame.length ≤ bytes.length ∧
          encode batch = .ok (bytes.take frame.length) := by
  intro batch frame bytes
  have written : encode batch = .ok frame := ok_of_toOption (by decide +kernel)
  obtain ⟨whole, cut⟩ := reads_exactly_written.1 batch frame written
  exact ⟨written, whole _, cut (frame.take 9) (List.take_prefix _ _) (by decide),
    reads_exactly_written.2 bytes batch frame.length (whole _)⟩

end CausalTrace.Frame
