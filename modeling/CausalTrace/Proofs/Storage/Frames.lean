import CausalTrace.Storage.Frame

/-!
# Frames are read back

The frame of a batch is read back as that batch, whatever bytes follow it, and its reading stops
exactly at its end.  A proper beginning of a frame is incomplete.

The payload of a frame is its own terminator: of two payloads that are read as whole batches,
neither is a proper beginning of the other.  So a payload of any other length is refused at the same
place even if its checksum happens to agree.
-/

namespace CausalTrace.Frame

/-! ## Numbers -/

@[simp] theorem length_number (width n : Nat) : (number width n).length = width := by
  induction width generalizing n with
  | zero => rfl
  | succ width ih => rw [number, List.length_cons, ih]

/-- A number that fits is read back. -/
theorem value_number {width n : Nat} (fits : n < 256 ^ width) : value (number width n) = n := by
  induction width generalizing n with
  | zero =>
    rw [Nat.pow_zero, Nat.lt_one_iff] at fits
    rw [fits]
    rfl
  | succ width ih =>
    have higher : n / 256 < 256 ^ width := by
      rw [Nat.div_lt_iff_lt_mul (by decide), ← Nat.pow_succ]
      exact fits
    have byte : (UInt8.ofNat (n % 256)).toNat = n % 256 := by
      rw [UInt8.toNat_ofNat', Nat.mod_mod]
    rw [number, value, ih higher, byte]
    omega

/-- Bytes are the number they stand for, in their own width. -/
theorem number_value (bytes : Bytes) : number bytes.length (value bytes) = bytes := by
  induction bytes with
  | nil => rfl
  | cons byte rest ih =>
    have small := byte.toNat_lt
    have low : (byte.toNat + 256 * value rest) % 256 = byte.toNat := by omega
    have high : (byte.toNat + 256 * value rest) / 256 = value rest := by omega
    rw [List.length_cons, value, number, low, high, ih, UInt8.ofNat_toNat]

/-! ## Results in sequence -/

theorem ok_bind {ε α β : Type} (first : α) (next : α → Except ε β) :
    (Except.ok first >>= next) = next first :=
  rfl

/-- A sequence that succeeds has succeeded in both parts. -/
theorem of_bind_ok {ε α β : Type} {part : Except ε α} {next : α → Except ε β} {last : β}
    (succeeded : part >>= next = .ok last) : ∃ first, part = .ok first ∧ next first = .ok last := by
  cases part with
  | error failure => cases succeeded
  | ok first => exact ⟨first, rfl, succeeded⟩

/-- A result that has a value as an option is that value. -/
theorem ok_of_toOption {ε α : Type} {result : Except ε α} {value : α}
    (found : result.toOption = some value) : result = .ok value := by
  cases result with
  | error failure => cases found
  | ok other => exact congrArg Except.ok (Option.some.inj found)

/-! ## Reading what was written -/

/-- A number is read from the front of its bytes. -/
theorem readNumber_append {width : Nat} {bytes : Bytes} (full : bytes.length = width)
    (rest : Bytes) : readNumber width (bytes ++ rest) = .ok (value bytes, rest) := by
  rw [readNumber, List.take_left' full, if_neg (by omega), List.drop_left' full]

/-- A field is read from the front of its bytes. -/
theorem readField_append (content rest : Bytes) :
    readField content.length (content ++ rest) = .ok (content, rest) := by
  rw [readField, List.take_left, if_neg (by omega), List.drop_left]

/-- A sized field is read back behind its length, whatever follows. -/
theorem readSized_append {width : Nat} {content : Bytes} (fits : content.length < 256 ^ width)
    (rest : Bytes) :
    readSized width (number width content.length ++ content ++ rest) = .ok (content, rest) := by
  rw [readSized, List.append_assoc, readNumber_append (length_number _ _), ok_bind,
    value_number fits]
  exact readField_append content rest

/-- A text is read back behind its length, whatever follows. -/
theorem readText_append {width : Nat} {text : String}
    (fits : (Utf8.encode text).length < 256 ^ width) (rest : Bytes) :
    readText width (number width (Utf8.encode text).length ++ Utf8.encode text ++ rest)
      = .ok (text, rest) := by
  rw [readText, readSized_append fits, ok_bind]
  simp only [Utf8.decode?_encode]
  rfl

/-- A long field is written only if its length fits into four bytes. -/
theorem longField_ok {content bytes : Bytes} (written : longField content = .ok bytes) :
    content.length < 256 ^ 4 ∧ bytes = number 4 content.length ++ content := by
  unfold longField at written
  split at written
  next fits =>
    cases written
    exact ⟨fits, rfl⟩
  next => cases written

/-- A field of a partition name is written only if its length fits into two bytes. -/
theorem partitionField_ok {content bytes : Bytes} (written : partitionField content = .ok bytes) :
    content.length < 256 ^ 2 ∧ bytes = number 2 content.length ++ content := by
  unfold partitionField at written
  split at written
  next fits =>
    cases written
    exact ⟨fits, rfl⟩
  next => cases written

/-- A put is decoded from its bytes, whatever follows. -/
theorem decodePut_append {put : Put} {bytes : Bytes} (written : encodePut put = .ok bytes)
    (rest : Bytes) : decodePut (bytes ++ rest) = .ok (put, rest) := by
  obtain ⟨partition, partitionWritten, written⟩ := of_bind_ok written
  obtain ⟨key, keyWritten, written⟩ := of_bind_ok written
  obtain ⟨content, contentWritten, written⟩ := of_bind_ok written
  cases written
  obtain ⟨partitionFits, rfl⟩ := partitionField_ok partitionWritten
  obtain ⟨keyFits, rfl⟩ := longField_ok keyWritten
  obtain ⟨contentFits, rfl⟩ := longField_ok contentWritten
  rw [decodePut, List.append_assoc, List.append_assoc, readText_append partitionFits, ok_bind]
  dsimp only
  rw [readText_append keyFits, ok_bind]
  dsimp only
  rw [readSized_append contentFits, ok_bind]
  rfl

/-- Puts are decoded from their bytes in order, whatever follows. -/
theorem decodePuts_append {batch : Batch} {bytes : Bytes} (written : encodePuts batch = .ok bytes)
    (rest : Bytes) : decodePuts batch.length (bytes ++ rest) = .ok (batch, rest) := by
  induction batch generalizing bytes with
  | nil =>
    cases written
    rfl
  | cons put others ih =>
    obtain ⟨first, firstWritten, written⟩ := of_bind_ok written
    obtain ⟨later, laterWritten, written⟩ := of_bind_ok written
    cases written
    rw [List.length_cons, decodePuts, List.append_assoc, decodePut_append firstWritten, ok_bind]
    dsimp only
    rw [ih laterWritten, ok_bind]
    rfl

/-- The payload of a batch is read as that batch. -/
theorem decodePayload_encodePayload {batch : Batch} {payload : Bytes}
    (written : encodePayload batch = .ok payload) : decodePayload payload = .ok batch := by
  unfold encodePayload at written
  split at written
  next fits =>
    cases putsWritten : encodePuts batch with
    | error refusal =>
      rw [putsWritten] at written
      cases written
    | ok puts =>
      rw [putsWritten] at written
      cases written
      rw [decodePayload, readNumber_append (length_number _ _), ok_bind, value_number fits]
      dsimp only
      rw [← List.append_nil puts, decodePuts_append putsWritten, ok_bind]
      rfl
  next => cases written

/-! ## Whole frames and beginnings of frames -/

/-- Decoding bytes whose two leading fields are known. -/
theorem decode_append {field sum : Bytes} (fieldWidth : field.length = 4)
    (sumWidth : sum.length = 4) (body : Bytes) :
    decode (field ++ sum ++ body) =
      if payloadLimit < value field then .error (.corrupt (.tooLarge (value field)))
      else if body.length < value field then
        .error (.incomplete (headSize + body.length) (headSize + value field))
      else if Checksum.crc32 (body.take (value field)) ≠ value sum then
        .error (.corrupt (.checksum (value sum) (Checksum.crc32 (body.take (value field)))))
      else
        match decodePayload (body.take (value field)) with
        | .error damage => .error (.corrupt damage)
        | .ok batch => .ok (batch, headSize + value field) := by
  have front : (field ++ sum ++ body).take headSize = field ++ sum :=
    List.take_left' (by simp [fieldWidth, sumWidth, headSize])
  have behind : (field ++ sum ++ body).drop headSize = body :=
    List.drop_left' (by simp [fieldWidth, sumWidth, headSize])
  have whole : ¬(field ++ sum).length < headSize := by
    simp [fieldWidth, sumWidth, headSize]
  have present : (field ++ sum ++ body).length = headSize + body.length := by
    simp [fieldWidth, sumWidth, headSize]
    omega
  have short : (body.take (value field)).length < value field ↔ body.length < value field := by
    rw [List.length_take]
    omega
  cases read : decodePayload (body.take (value field)) with
  | error damage =>
    simp only [decode, front, behind, whole, present, short, read, if_false,
      List.take_left' fieldWidth, List.drop_left' fieldWidth]
  | ok batch =>
    simp only [decode, front, behind, whole, present, short, read, if_false,
      List.take_left' fieldWidth, List.drop_left' fieldWidth]

/-- A frame is its payload with length and checksum in front, and a payload fits its limit. -/
theorem encode_ok {batch : Batch} {frame : Bytes} (written : encode batch = .ok frame) :
    ∃ payload, encodePayload batch = .ok payload ∧ payload.length ≤ payloadLimit ∧
      frame = enclose payload := by
  obtain ⟨payload, payloadWritten, written⟩ := of_bind_ok written
  split at written
  next fits =>
    cases written
    exact ⟨payload, payloadWritten, fits, rfl⟩
  next => cases written

/-- The empty batch has a frame. -/
theorem encode_nil : ∃ frame, encode [] = .ok frame :=
  ⟨_, rfl⟩

/-- A frame has the size of its head and its payload. -/
theorem length_enclose (payload : Bytes) :
    (enclose payload).length = headSize + payload.length := by
  simp only [enclose, List.length_append, length_number, headSize]

/-- The frame of a batch is read as that batch and no further. -/
theorem decode_encode {batch : Batch} {frame : Bytes} (written : encode batch = .ok frame)
    (rest : Bytes) : decode (frame ++ rest) = .ok (batch, frame.length) := by
  obtain ⟨payload, payloadWritten, limited, rfl⟩ := encode_ok written
  have length : value (number 4 payload.length) = payload.length :=
    value_number (by rw [payloadLimit] at limited; omega)
  have sum : value (number 4 (Checksum.crc32 payload)) = Checksum.crc32 payload :=
    value_number (Checksum.crc32_lt payload)
  rw [length_enclose, enclose, List.append_assoc,
    decode_append (length_number _ _) (length_number _ _), length, List.take_left, sum,
    if_neg (by omega), if_neg (by rw [List.length_append]; omega), if_neg (by simp),
    decodePayload_encodePayload payloadWritten]

/-- A proper beginning of a frame is incomplete. -/
theorem decode_take {batch : Batch} {frame : Bytes} (written : encode batch = .ok frame)
    {cut : Nat} (cuts : cut < frame.length) :
    ∃ needed, decode (frame.take cut) = .error (.incomplete cut needed) := by
  have present : (frame.take cut).length = cut := List.length_take_of_le (Nat.le_of_lt cuts)
  by_cases headless : cut < headSize
  · refine ⟨headSize, ?_⟩
    have short : ((frame.take cut).take headSize).length < headSize := by
      rw [List.length_take]
      omega
    simp only [decode, short, present, if_true]
  · obtain ⟨payload, payloadWritten, limited, rfl⟩ := encode_ok written
    rw [length_enclose] at cuts
    have length : value (number 4 payload.length) = payload.length :=
      value_number (by rw [payloadLimit] at limited; omega)
    have front : (number 4 payload.length ++ number 4 (Checksum.crc32 payload)).length
        = headSize := by
      rw [List.length_append, length_number, length_number, headSize]
    have shape : (enclose payload).take cut = number 4 payload.length
        ++ number 4 (Checksum.crc32 payload) ++ payload.take (cut - headSize) := by
      rw [enclose, List.take_append, front, List.take_of_length_le (by omega)]
    have rest : headSize + (payload.take (cut - headSize)).length = cut := by
      rw [List.length_take]
      omega
    refine ⟨headSize + payload.length, ?_⟩
    rw [shape, decode_append (length_number _ _) (length_number _ _), length, rest,
      if_neg (by omega), if_pos (by omega)]

/-! ## Payloads end themselves -/

section Continued

variable {bytes rest : Bytes} (more : Bytes)

/-- A reading that succeeds reads the same if more bytes follow. -/
theorem readNumber_continued {width found : Nat}
    (read : readNumber width bytes = .ok (found, rest)) :
    readNumber width (bytes ++ more) = .ok (found, rest ++ more) := by
  simp only [readNumber] at read ⊢
  split at read
  next => cases read
  next full =>
    cases read
    rw [List.length_take] at full
    rw [List.take_append_of_le_length (by omega), List.drop_append_of_le_length (by omega),
      if_neg (by rw [List.length_take]; omega)]

/-- A field that was read is read as before from longer bytes. -/
theorem readField_continued {length : Nat} {found : Bytes}
    (read : readField length bytes = .ok (found, rest)) :
    readField length (bytes ++ more) = .ok (found, rest ++ more) := by
  simp only [readField] at read ⊢
  split at read
  next => cases read
  next full =>
    cases read
    rw [List.length_take] at full
    rw [List.take_append_of_le_length (by omega), List.drop_append_of_le_length (by omega),
      if_neg (by rw [List.length_take]; omega)]

/-- A sized field that was read is read as before from longer bytes. -/
theorem readSized_continued {width : Nat} {found : Bytes}
    (read : readSized width bytes = .ok (found, rest)) :
    readSized width (bytes ++ more) = .ok (found, rest ++ more) := by
  obtain ⟨⟨length, after⟩, lengthRead, fieldRead⟩ := of_bind_ok read
  rw [readSized, readNumber_continued more lengthRead, ok_bind]
  exact readField_continued more fieldRead

/-- A text that was read is read as before from longer bytes. -/
theorem readText_continued {width : Nat} {found : String}
    (read : readText width bytes = .ok (found, rest)) :
    readText width (bytes ++ more) = .ok (found, rest ++ more) := by
  obtain ⟨⟨content, after⟩, contentRead, decoded⟩ := of_bind_ok read
  rw [readText, readSized_continued more contentRead, ok_bind]
  dsimp only at decoded ⊢
  split at decoded
  next text valid =>
    cases decoded
    rfl
  next => cases decoded

/-- A put that was decoded is decoded as before from longer bytes. -/
theorem decodePut_continued {found : Put} (read : decodePut bytes = .ok (found, rest)) :
    decodePut (bytes ++ more) = .ok (found, rest ++ more) := by
  obtain ⟨⟨partition, afterPartition⟩, partitionRead, read⟩ := of_bind_ok read
  obtain ⟨⟨key, afterKey⟩, keyRead, read⟩ := of_bind_ok read
  obtain ⟨⟨content, after⟩, contentRead, read⟩ := of_bind_ok read
  cases read
  rw [decodePut, readText_continued more partitionRead, ok_bind]
  dsimp only
  rw [readText_continued more keyRead, ok_bind]
  dsimp only
  rw [readSized_continued more contentRead, ok_bind]
  rfl

/-- Puts that were decoded are decoded as before from longer bytes. -/
theorem decodePuts_continued {count : Nat} {found : Batch}
    (read : decodePuts count bytes = .ok (found, rest)) :
    decodePuts count (bytes ++ more) = .ok (found, rest ++ more) := by
  induction count generalizing bytes found with
  | zero =>
    cases read
    rfl
  | succ count ih =>
    obtain ⟨⟨put, afterPut⟩, putRead, read⟩ := of_bind_ok read
    obtain ⟨⟨others, after⟩, othersRead, read⟩ := of_bind_ok read
    cases read
    rw [decodePuts, decodePut_continued more putRead, ok_bind]
    dsimp only
    rw [ih othersRead, ok_bind]
    rfl

/-- A payload with more bytes behind it is not a payload. -/
theorem decodePayload_continued {payload more : Bytes} {batch : Batch}
    (read : decodePayload payload = .ok batch) (goesOn : more ≠ []) :
    decodePayload (payload ++ more) = .error .trailing := by
  obtain ⟨⟨count, afterCount⟩, countRead, read⟩ := of_bind_ok read
  obtain ⟨⟨puts, after⟩, putsRead, read⟩ := of_bind_ok read
  dsimp only at read
  split at read
  next ended =>
    cases read
    subst ended
    rw [decodePayload, readNumber_continued more countRead, ok_bind]
    dsimp only
    rw [decodePuts_continued more putsRead, ok_bind]
    dsimp only
    rw [List.nil_append, if_neg goesOn]
    rfl
  next => cases read

end Continued

/-- Bytes that are read as a whole payload are read as one in no other length. -/
theorem decodePayload_take {payload : Bytes} {batch : Batch}
    (read : decodePayload payload = .ok batch) (rest : Bytes) {length : Nat}
    (other : length ≠ payload.length) (present : length ≤ (payload ++ rest).length) :
    ∃ damage, decodePayload ((payload ++ rest).take length) = .error damage := by
  rcases Nat.lt_or_gt_of_ne other with shorter | longer
  · rw [List.take_append_of_le_length (Nat.le_of_lt shorter)]
    cases early : decodePayload (payload.take length) with
    | error damage => exact ⟨damage, rfl⟩
    | ok batch =>
      have goesOn : payload.drop length ≠ [] := by simpa using shorter
      have late := decodePayload_continued early goesOn
      rw [List.take_append_drop, read] at late
      cases late
  · have goesOn : rest.take (length - payload.length) ≠ [] := by
      rw [List.length_append] at present
      rw [← List.length_pos_iff, List.length_take]
      omega
    rw [List.take_append, List.take_of_length_le (Nat.le_of_lt longer)]
    exact ⟨.trailing, decodePayload_continued read goesOn⟩

/-! ## A damaged length -/

section DamagedLength

variable {payload field rest : Bytes} {batch : Batch} (sum : Nat)

/-- A frame whose length field states more bytes than there are is taken for an incomplete one,
unless no frame may be that large. -/
theorem decode_lengthBeyond {body : Bytes} (width : field.length = 4)
    (limited : value field ≤ payloadLimit) (beyond : body.length < value field) :
    ∃ present needed, decode (field ++ number 4 sum ++ body)
      = .error (.incomplete present needed) := by
  refine ⟨headSize + body.length, headSize + value field, ?_⟩
  rw [decode_append width (length_number _ _), if_neg (by omega), if_pos beyond]

/-- A frame whose length field states a length that is there or may not be is refused,
whatever its checksum. -/
theorem decode_lengthWithin (read : decodePayload payload = .ok batch) (width : field.length = 4)
    (other : value field ≠ payload.length)
    (within : payloadLimit < value field ∨ value field ≤ (payload ++ rest).length) :
    ∃ damage, decode (field ++ number 4 sum ++ (payload ++ rest)) = .error (.corrupt damage) := by
  rw [decode_append width (length_number _ _)]
  split
  · exact ⟨_, rfl⟩
  next limited =>
    have present := within.resolve_left limited
    rw [if_neg (by omega)]
    split
    · exact ⟨_, rfl⟩
    · obtain ⟨damage, refused⟩ := decodePayload_take read rest other present
      exact ⟨damage, by rw [refused]⟩

end DamagedLength

end CausalTrace.Frame
