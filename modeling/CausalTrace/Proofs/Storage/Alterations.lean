import CausalTrace.Proofs.Storage.Bursts

/-!
# An altered frame is refused

A frame that differs from what was written only in its length, only in its checksum, or only in up
to four neighbouring bytes of its payload is read as no frame, whatever bytes follow.

The checksum shows the last two.  It does not guard the length: with another length the payload is
cut short or goes on into what follows, and the checksum of that may agree.  Such a frame is refused
because a payload ends itself.
-/

namespace CausalTrace.Frame

/-- The windows of a frame of some size in which no change is accepted. -/
inductive Window (size : Nat) : (place width : Nat) → Prop where
  | length : Window size 0 4
  | guarded {place width} (guarded : Log.Guarded 0 size place width) : Window size place width

variable {payload altered : Bytes} {batch : Batch}

/-- With another length, a frame is incomplete or corrupt. -/
theorem decode_alteredLength (read : decodePayload payload = .ok batch)
    (within : AlteredWithin 0 4 (enclose payload) altered) (differs : altered ≠ enclose payload)
    (rest : Bytes) : ∃ fault, decode (altered ++ rest) = .error fault := by
  have split : enclose payload = [] ++ (number 4 payload.length
      ++ (number 4 (Checksum.crc32 payload) ++ payload)) := by
    rw [enclose, List.nil_append, List.append_assoc]
  obtain ⟨field, width, rfl⟩ := within.parts split rfl (length_number _ _)
  have other : value field ≠ payload.length := by
    intro same
    apply differs
    rw [split, ← same, ← width, number_value]
  have shape : [] ++ (field ++ (number 4 (Checksum.crc32 payload) ++ payload)) ++ rest
      = field ++ number 4 (Checksum.crc32 payload) ++ (payload ++ rest) := by
    simp only [List.nil_append, List.append_assoc]
  rw [shape]
  by_cases decided : payloadLimit < value field ∨ value field ≤ (payload ++ rest).length
  · obtain ⟨damage, refused⟩ := decode_lengthWithin _ read width other decided
    exact ⟨_, refused⟩
  · rw [not_or, Nat.not_lt, Nat.not_le] at decided
    obtain ⟨present, needed, refused⟩ := decode_lengthBeyond _ width decided.1 decided.2
    exact ⟨_, refused⟩

/-- With another checksum, or with a few other bytes in its payload, a frame is corrupt. -/
theorem decode_alteredGuarded {place width : Nat} (limited : payload.length ≤ payloadLimit)
    (guarded : Log.Guarded 0 (enclose payload).length place width)
    (within : AlteredWithin place width (enclose payload) altered)
    (differs : altered ≠ enclose payload) (rest : Bytes) :
    ∃ fault, decode (altered ++ rest) = .error fault := by
  have whole : [] ++ (enclose payload ++ []) = enclose payload := List.append_nil _
  have alone : AlteredWithin place width ([] ++ (enclose payload ++ [])) altered :=
    whole.symm ▸ within
  obtain ⟨sum, body, sumWidth, bodyWidth, mismatch, rfl⟩ :=
    Log.Guarded.mismatches (by simpa using guarded) alone (whole.symm ▸ differs)
  have shape : [] ++ (number 4 body.length ++ sum ++ (body ++ [])) ++ rest
      = number 4 body.length ++ sum ++ (body ++ rest) := by
    simp only [List.nil_append, List.append_nil, List.append_assoc]
  rw [shape]
  exact ⟨_, Log.decode_damagedSum rest sumWidth (bodyWidth.symm ▸ limited) mismatch⟩

/-- A frame that was altered in its length alone, in its checksum alone, or in up to four
neighbouring bytes of its payload alone, is incomplete or corrupt, whatever follows it. -/
theorem altered_refused {frame : Bytes} (written : encode batch = .ok frame) {place width : Nat}
    (window : Window frame.length place width) (within : AlteredWithin place width frame altered)
    (differs : altered ≠ frame) (rest : Bytes) :
    ∃ fault, decode (altered ++ rest) = .error fault := by
  obtain ⟨payload, payloadWritten, limited, rfl⟩ := encode_ok written
  cases window with
  | length =>
    exact decode_alteredLength (decodePayload_encodePayload payloadWritten) within differs rest
  | guarded guarded => exact decode_alteredGuarded limited guarded within differs rest

/-- The frame of one put states nine bytes less than its payload has, and other bytes follow. -/
theorem altered_refused_shorter :
    let batch : Batch := [⟨"p", "k", [49]⟩]
    let behind : Bytes :=
      [165, 12, 178, 140, 1, 0, 0, 0, 1, 0, 112, 1, 0, 0, 0, 107, 1, 0, 0, 0, 49]
    let frame : Bytes := [17, 0, 0, 0] ++ behind
    let altered : Bytes := [8, 0, 0, 0] ++ behind
    encode batch = .ok frame ∧ Window frame.length 0 4 ∧ AlteredWithin 0 4 frame altered ∧
      altered ≠ frame ∧ ∃ fault, decode (altered ++ [66, 84]) = .error fault := by
  intro batch behind frame altered
  have written : encode batch = .ok frame := ok_of_toOption (by decide +kernel)
  have within : AlteredWithin 0 4 frame altered := by
    refine ⟨rfl, ?_⟩
    rintro other (before | after)
    · cases before
    · rw [List.getElem?_append_right after, List.getElem?_append_right after]
      rfl
  have differs : altered ≠ frame := by decide
  exact ⟨written, .length, within, differs, altered_refused written .length within differs _⟩

end CausalTrace.Frame
