import CausalTrace.Proofs.Storage.Frames
import CausalTrace.Storage.Log

/-!
# Replaying frames

A log that holds whole frames is replayed to their batches.  Cut at any place behind its head it is
replayed to the batches of the frames that are whole, and the rest is its torn tail: the beginning
of a frame is never taken for anything else.
-/

namespace CausalTrace.Log

/-- Frames are those of batches, in order. -/
def Frames (batches : List Batch) (frames : List Bytes) : Prop :=
  batches.map Frame.encode = frames.map .ok

/-- No batches have no frames. -/
theorem Frames.nil : Frames [] [] :=
  rfl

/-- Every batch has its own frame. -/
theorem Frames.length_eq {batches : List Batch} {frames : List Bytes}
    (written : Frames batches frames) : batches.length = frames.length := by
  have lengths := congrArg List.length written
  rwa [List.length_map, List.length_map] at lengths

/-- The first of several frames is the frame of the first batch. -/
theorem Frames.uncons {batches : List Batch} {frame : Bytes} {frames : List Bytes}
    (written : Frames batches (frame :: frames)) :
    ∃ batch others, batches = batch :: others ∧ Frame.encode batch = .ok frame ∧
      Frames others frames := by
  cases batches with
  | nil => cases written
  | cons batch others =>
    obtain ⟨first, later⟩ := List.cons.inj written
    exact ⟨batch, others, rfl, first, later⟩

/-- A batch that is encoded at last has the last frame. -/
theorem Frames.concat {batches : List Batch} {frames : List Bytes} {batch : Batch} {frame : Bytes}
    (written : Frames batches frames) (encoded : Frame.encode batch = .ok frame) :
    Frames (batches ++ [batch]) (frames ++ [frame]) := by
  rw [Frames, List.map_append, List.map_append, written, List.map_singleton, encoded]
  rfl

/-- Batches whose frames were computed. -/
theorem Frames.of_toOption {batches : List Batch} {frames : List Bytes}
    (computed : batches.map (fun batch => (Frame.encode batch).toOption) = frames.map some) :
    Frames batches frames := by
  induction batches generalizing frames with
  | nil =>
    cases frames with
    | nil => exact .nil
    | cons => cases computed
  | cons batch rest ih =>
    cases frames with
    | nil => cases computed
    | cons frame others =>
      obtain ⟨first, later⟩ := List.cons.inj computed
      rw [Frames, List.map_cons, List.map_cons, Frame.ok_of_toOption first, ih later]

/-- The first batches have the first frames. -/
theorem Frames.take {batches : List Batch} {frames : List Bytes} (written : Frames batches frames)
    (count : Nat) : Frames (batches.take count) (frames.take count) := by
  rw [Frames, List.map_take, written, List.map_take]

/-! ## One frame -/

/-- A frame that has not begun is incomplete, not corrupt. -/
theorem decode_nil : Frame.decode [] = .error (.incomplete 0 Frame.headSize) :=
  rfl

/-- Where the bytes end between frames, replay ends well. -/
theorem replayFrames_nil (offset : Nat) : replayFrames offset [] = .ok ⟨[], 0⟩ := by
  rw [replayFrames, if_pos rfl]

/-- A frame that decodes is taken, and replay goes on behind it. -/
theorem replayFrames_decoded {offset size : Nat} {bytes : Bytes} {batch : Batch}
    (decoded : Frame.decode bytes = .ok (batch, size)) :
    replayFrames offset bytes = (replayFrames (offset + size) (bytes.drop size)).map
      fun rest => { rest with batches := batch :: rest.batches } := by
  have present : bytes ≠ [] := by
    rintro rfl
    rw [decode_nil] at decoded
    cases decoded
  rw [replayFrames, if_neg present]
  split
  next found =>
    rw [decoded] at found
    cases found
    cases replayFrames (offset + size) (bytes.drop size) <;> rfl
  next found =>
    rw [decoded] at found
    cases found
  next found =>
    rw [decoded] at found
    cases found

/-- A frame that is incomplete is a torn tail. -/
theorem replayFrames_incomplete {present needed : Nat} {bytes : Bytes}
    (decoded : Frame.decode bytes = .error (.incomplete present needed)) (offset : Nat) :
    replayFrames offset bytes = .ok ⟨[], bytes.length⟩ := by
  by_cases empty : bytes = []
  · rw [empty, replayFrames_nil, List.length_nil]
  rw [replayFrames, if_neg empty]
  split
  next found =>
    rw [decoded] at found
    cases found
  next => rfl
  next found =>
    rw [decoded] at found
    cases found

/-- A corrupt frame is a torn tail if it claims to end with the bytes, and refused otherwise. -/
theorem replayFrames_corrupt {bytes : Bytes} {damage : Frame.Damage}
    (decoded : Frame.decode bytes = .error (.corrupt damage)) (offset : Nat) :
    replayFrames offset bytes =
      if Frame.claimedSize? bytes = some bytes.length then .ok ⟨[], bytes.length⟩
      else .error ⟨offset, damage.message⟩ := by
  have present : bytes ≠ [] := by
    rintro rfl
    rw [decode_nil] at decoded
    cases decoded
  rw [replayFrames, if_neg present]
  split
  next found =>
    rw [decoded] at found
    cases found
  next found =>
    rw [decoded] at found
    cases found
  next found =>
    rw [decoded] at found
    cases found
    rfl

/-! ## Whole frames and a tail -/

/-- How many whole frames lie within so many bytes. -/
def whole : List Bytes → Nat → Nat
  | [], _ => 0
  | frame :: rest, room => if frame.length ≤ room then whole rest (room - frame.length) + 1 else 0

/-- Where the first of several frames end in a log. -/
def endOf (frames : List Bytes) (count : Nat) : Nat :=
  headSize + (frames.take count).flatten.length

/-- Frames are replayed to their batches, and what follows them is replayed from where it starts. -/
theorem replayFrames_flatten {batches : List Batch} {frames : List Bytes}
    (written : Frames batches frames) (offset : Nat) (tail : Bytes) :
    replayFrames offset (frames.flatten ++ tail) =
      (replayFrames (offset + frames.flatten.length) tail).map
        fun rest => { rest with batches := batches ++ rest.batches } := by
  induction frames generalizing batches offset with
  | nil =>
    have none := written.length_eq
    rw [List.length_nil, List.length_eq_zero_iff] at none
    subst none
    rw [List.flatten_nil, List.nil_append, List.length_nil, Nat.add_zero]
    cases replayFrames offset tail <;> rfl
  | cons frame others ih =>
    obtain ⟨batch, later, rfl, encoded, rest⟩ := written.uncons
    rw [List.flatten_cons, List.append_assoc,
      replayFrames_decoded (Frame.decode_encode encoded _), List.drop_left, ih rest,
      List.length_append, ← Nat.add_assoc]
    cases replayFrames (offset + frame.length + others.flatten.length) tail <;> rfl

/-- Frames that are cut off at some place are replayed to the whole ones, and the rest is torn. -/
theorem replayFrames_take {batches : List Batch} {frames : List Bytes}
    (written : Frames batches frames) (offset : Nat) {room : Nat}
    (present : room ≤ frames.flatten.length) :
    replayFrames offset (frames.flatten.take room) = .ok ⟨batches.take (whole frames room),
      room - (frames.take (whole frames room)).flatten.length⟩ := by
  induction frames generalizing batches offset room with
  | nil =>
    rw [List.flatten_nil, List.length_nil, Nat.le_zero] at present
    subst present
    rw [List.flatten_nil, List.take_nil, replayFrames_nil, whole, List.take_zero, Nat.zero_sub]
  | cons frame others ih =>
    obtain ⟨batch, later, rfl, encoded, rest⟩ := written.uncons
    rw [List.flatten_cons, List.length_append] at present
    rw [List.flatten_cons, whole]
    split
    next fits =>
      rw [List.take_append, List.take_of_length_le fits,
        replayFrames_decoded (Frame.decode_encode encoded _), List.drop_left,
        ih rest (offset + frame.length) (by omega)]
      simp only [Except.map, List.take_succ_cons, List.flatten_cons, List.length_append,
        Nat.sub_sub]
    next cut =>
      rw [List.take_append_of_le_length (by omega)]
      obtain ⟨needed, incomplete⟩ := Frame.decode_take encoded (Nat.lt_of_not_le cut)
      rw [replayFrames_incomplete incomplete, List.length_take_of_le (by omega)]
      rfl

/-- The frames that are counted are exactly those that end within the bytes. -/
theorem le_whole_iff {frames : List Bytes} {count : Nat} (known : count ≤ frames.length)
    (room : Nat) : count ≤ whole frames room ↔ (frames.take count).flatten.length ≤ room := by
  induction frames generalizing count room with
  | nil =>
    rw [List.length_nil, Nat.le_zero] at known
    simp [known]
  | cons frame others ih =>
    cases count with
    | zero => simp
    | succ count =>
      rw [List.length_cons, Nat.succ_le_succ_iff] at known
      rw [whole, List.take_succ_cons, List.flatten_cons, List.length_append]
      split
      next fits => rw [Nat.succ_le_succ_iff, ih known]; omega
      next => omega

/-- No more frames are whole than there are. -/
theorem whole_le_length (frames : List Bytes) (room : Nat) :
    whole frames room ≤ frames.length := by
  induction frames generalizing room with
  | nil => exact Nat.le_refl _
  | cons frame others ih =>
    rw [whole]
    split
    · exact Nat.succ_le_succ (ih _)
    · exact Nat.zero_le _

/-! ## A whole log -/

/-- The head has its fixed size. -/
theorem length_head : head.length = headSize :=
  rfl

/-- Every frame ends within the file. -/
theorem endOf_le_length (frames : List Bytes) (count : Nat) :
    endOf frames count ≤ (head ++ frames.flatten).length := by
  have parts : (frames.take count).flatten ++ (frames.drop count).flatten = frames.flatten := by
    rw [← List.flatten_append, List.take_append_drop]
  rw [endOf, ← parts, List.length_append, List.length_append, length_head]
  omega

/-- The head that is written passes the check. -/
theorem checkHead_head (rest : Bytes) : checkHead (head ++ rest) = .ok () := by
  have long : ¬(head ++ rest).length < headSize := by
    rw [List.length_append, length_head]
    omega
  have magical : (head ++ rest).take 4 = magic := rfl
  have current : Frame.value (((head ++ rest).drop 4).take 2) = version := rfl
  rw [checkHead, if_neg long, if_neg (not_not_intro magical)]
  exact if_neg (not_not_intro current)

/-- Behind the head that is written the frames are replayed. -/
theorem replay_head (rest : Bytes) : replay (head ++ rest) = replayFrames headSize rest := by
  rw [replay, checkHead_head, ← length_head, List.drop_left]

/-- A log of whole frames is replayed to their batches. -/
theorem replay_flatten {batches : List Batch} {frames : List Bytes}
    (written : Frames batches frames) : replay (head ++ frames.flatten) = .ok ⟨batches, 0⟩ := by
  have replayed := replayFrames_flatten written headSize []
  rw [List.append_nil, replayFrames_nil] at replayed
  rw [replay_head, replayed]
  simp only [Except.map, List.append_nil]

/-- A log that is cut off behind its head is replayed to the batches of its whole frames, and
the rest is torn. -/
theorem replay_take {batches : List Batch} {frames : List Bytes} (written : Frames batches frames)
    {cut : Nat} (behindHead : headSize ≤ cut) (present : cut ≤ (head ++ frames.flatten).length) :
    ∃ count ≤ frames.length,
      (∀ other ≤ frames.length, other ≤ count ↔ endOf frames other ≤ cut) ∧
        replay ((head ++ frames.flatten).take cut) =
          .ok ⟨batches.take count, cut - endOf frames count⟩ := by
  rw [List.length_append, length_head] at present
  refine ⟨whole frames (cut - headSize), whole_le_length _ _, ?_, ?_⟩
  · intro other known
    rw [le_whole_iff known, endOf]
    omega
  · rw [List.take_append, length_head, List.take_of_length_le behindHead, replay_head,
      replayFrames_take written _ (by omega), endOf, Nat.sub_sub]

end CausalTrace.Log
