import CausalTrace.Proofs.Storage.Checksums
import CausalTrace.Proofs.Storage.Damage

/-!
# Damage that the checksum shows

A frame whose checksum was changed, or up to four neighbouring bytes of its payload, still claims
its own end and never passes for a frame.  In front of other frames it is therefore reported where
it starts.  As the last frame it is taken for a torn tail, and the log is what it was before that
frame was written.
-/

namespace CausalTrace

/-- Bytes that were changed at most within a window, and are as many as before. -/
structure AlteredWithin (place width : Nat) (old new : Bytes) : Prop where
  length : new.length = old.length
  elsewhere : ∀ other, other < place ∨ place + width ≤ other → new[other]? = old[other]?

/-- What stands in front of the window and behind it is as it was. -/
theorem AlteredWithin.parts {place width : Nat} {old new before window rest : Bytes}
    (altered : AlteredWithin place width old new) (split : old = before ++ (window ++ rest))
    (front : before.length = place) (size : window.length = width) :
    ∃ other : Bytes, other.length = width ∧ new = before ++ (other ++ rest) := by
  subst split front size
  have total := altered.length
  simp only [List.length_append] at total
  have kept : new.take before.length = before := by
    refine List.ext_getElem? fun place => ?_
    by_cases within : place < before.length
    · rw [List.getElem?_take_of_lt within, altered.elsewhere place (.inl within),
        List.getElem?_append_left within]
    · rw [List.getElem?_eq_none (by simp; omega), List.getElem?_eq_none (by omega)]
  have behind : (new.drop before.length).drop window.length = rest := by
    refine List.ext_getElem? fun place => ?_
    rw [List.drop_drop, List.getElem?_drop, altered.elsewhere _ (.inr (Nat.le_add_right _ _)),
      Nat.add_assoc, List.getElem?_append_right (Nat.le_add_right _ _), Nat.add_sub_cancel_left,
      List.getElem?_append_right (Nat.le_add_right _ _), Nat.add_sub_cancel_left]
  refine ⟨(new.drop before.length).take window.length, ?_, ?_⟩
  · rw [List.length_take, List.length_drop]
    omega
  · calc new = new.take before.length ++ ((new.drop before.length).take window.length
            ++ (new.drop before.length).drop window.length) := by
          rw [List.take_append_drop, List.take_append_drop]
      _ = before ++ ((new.drop before.length).take window.length ++ rest) := by
          rw [kept, behind]

namespace Log

/-- The windows of a frame between two places of a log in which the checksum shows every damage:
the checksum itself, and up to four bytes of the payload. -/
inductive Guarded (start stop : Nat) : (place width : Nat) → Prop where
  | checksum : Guarded start stop (start + 4) 4
  | payload {place width} (short : width ≤ 4) (behindHead : start + Frame.headSize ≤ place)
      (inside : place + width ≤ stop) : Guarded start stop place width

/-! ## One frame -/

/-- A whole payload under another checksum is corrupt. -/
theorem decode_damagedSum {sum body : Bytes} (rest : Bytes) (width : sum.length = 4)
    (limited : body.length ≤ Frame.payloadLimit)
    (mismatch : Checksum.crc32 body ≠ Frame.value sum) :
    Frame.decode (Frame.number 4 body.length ++ sum ++ (body ++ rest))
      = .error (.corrupt (.checksum (Frame.value sum) (Checksum.crc32 body))) := by
  have length : Frame.value (Frame.number 4 body.length) = body.length :=
    Frame.value_number (by rw [Frame.payloadLimit] at limited; omega)
  rw [Frame.decode_append (Frame.length_number _ _) width, length, List.take_left,
    if_neg (by omega), if_neg (by rw [List.length_append]; omega), if_pos mismatch]

/-- In front of other bytes it is reported; as the last frame it is a torn tail. -/
theorem replayFrames_damagedSum {sum body : Bytes} (start : Nat) (rest : Bytes)
    (width : sum.length = 4) (limited : body.length ≤ Frame.payloadLimit)
    (mismatch : Checksum.crc32 body ≠ Frame.value sum) :
    let bytes := Frame.number 4 body.length ++ sum ++ (body ++ rest)
    (rest ≠ [] → ∃ reason, replayFrames start bytes = .error ⟨start, reason⟩) ∧
      (rest = [] → replayFrames start bytes = .ok ⟨[], bytes.length⟩) := by
  intro bytes
  have length : Frame.value (Frame.number 4 body.length) = body.length :=
    Frame.value_number (by rw [Frame.payloadLimit] at limited; omega)
  have size : bytes.length = Frame.headSize + body.length + rest.length := by
    simp [bytes, width, Frame.headSize]
    omega
  have claimed : Frame.claimedSize? bytes = some (Frame.headSize + body.length) := by
    rw [Frame.claimedSize?, if_neg (by omega)]
    simp [bytes, List.take_left' (Frame.length_number _ _), length]
  have replayed := replayFrames_corrupt (decode_damagedSum rest width limited mismatch) start
  rw [claimed, size] at replayed
  constructor
  · intro more
    have behind := List.length_pos_iff.2 more
    rw [if_neg (by simp only [Option.some.injEq]; omega)] at replayed
    exact ⟨_, replayed⟩
  · rintro rfl
    rw [if_pos (by simp)] at replayed
    rw [size]
    exact replayed

section Altered

variable {before payload rest new : Bytes}

/-- Bytes in which a frame still has its length, but its checksum is not the one of its payload. -/
def Mismatches (before payload rest new : Bytes) : Prop :=
  ∃ sum body : Bytes, sum.length = 4 ∧ body.length = payload.length ∧
    Checksum.crc32 body ≠ Frame.value sum ∧
    new = before ++ (Frame.number 4 body.length ++ sum ++ (body ++ rest))

/-- Bytes that are altered within a checksum leave the payload, so the two no longer match. -/
theorem mismatches_checksum
    (altered : AlteredWithin (before.length + 4) 4 (before ++ (Frame.enclose payload ++ rest)) new)
    (differs : new ≠ before ++ (Frame.enclose payload ++ rest)) :
    Mismatches before payload rest new := by
  have split : before ++ (Frame.enclose payload ++ rest)
      = (before ++ Frame.number 4 payload.length)
        ++ (Frame.number 4 (Checksum.crc32 payload) ++ (payload ++ rest)) := by
    simp only [Frame.enclose, List.append_assoc]
  obtain ⟨sum, width, rfl⟩ := altered.parts split (by simp) (Frame.length_number _ _)
  refine ⟨sum, payload, width, rfl, fun same => differs ?_, by simp only [List.append_assoc]⟩
  rw [split, same, ← width, Frame.number_value]

/-- A burst of up to four bytes within a payload changes its checksum. -/
theorem mismatches_payload {place width : Nat} (short : width ≤ 4)
    (behindHead : before.length + Frame.headSize ≤ place)
    (inside : place + width ≤ before.length + (Frame.enclose payload).length)
    (altered : AlteredWithin place width (before ++ (Frame.enclose payload ++ rest)) new)
    (differs : new ≠ before ++ (Frame.enclose payload ++ rest)) :
    Mismatches before payload rest new := by
  obtain ⟨skipped, rfl⟩ := Nat.exists_eq_add_of_le behindHead
  rw [Frame.length_enclose] at inside
  have firstLength : (payload.take skipped).length = skipped := by
    rw [List.length_take]
    omega
  have windowLength : ((payload.drop skipped).take width).length = width := by
    rw [List.length_take, List.length_drop]
    omega
  have whole : payload.take skipped
      ++ ((payload.drop skipped).take width ++ (payload.drop skipped).drop width) = payload := by
    rw [List.take_append_drop, List.take_append_drop]
  generalize payload.take skipped = first at firstLength whole
  generalize (payload.drop skipped).take width = window at windowLength whole
  generalize (payload.drop skipped).drop width = last at whole
  -- The window splits the payload in three, of which the middle part is exchanged.
  have split : before ++ (Frame.enclose payload ++ rest)
      = (before ++ Frame.number 4 payload.length ++ Frame.number 4 (Checksum.crc32 payload)
        ++ first) ++ (window ++ (last ++ rest)) := by
    have enclosed : Frame.enclose payload = Frame.number 4 payload.length
        ++ Frame.number 4 (Checksum.crc32 payload) ++ (first ++ (window ++ last)) := by
      rw [whole, Frame.enclose]
    rw [enclosed]
    simp only [List.append_assoc]
  obtain ⟨other, otherLength, rfl⟩ := altered.parts split
    (by simp [firstLength, Frame.headSize]; omega) windowLength
  have size : (first ++ (other ++ last)).length = payload.length := by
    rw [← whole]
    simp only [List.length_append, otherLength, windowLength]
  refine ⟨Frame.number 4 (Checksum.crc32 payload), first ++ (other ++ last),
    Frame.length_number _ _, size, ?_, ?_⟩
  · rw [Frame.value_number (Checksum.crc32_lt payload), ← whole]
    exact Checksum.crc32_ne (otherLength.trans windowLength.symm) (windowLength ▸ short)
      (fun same => differs (by rw [split, same])) first last
  · rw [size]
    simp only [List.append_assoc]

/-- Damage in a guarded window leaves a checksum that is not the one of the payload, and all
else as it was. -/
theorem Guarded.mismatches {place width : Nat}
    (guarded : Guarded before.length (before.length + (Frame.enclose payload).length) place width)
    (altered : AlteredWithin place width (before ++ (Frame.enclose payload ++ rest)) new)
    (differs : new ≠ before ++ (Frame.enclose payload ++ rest)) :
    Mismatches before payload rest new := by
  cases guarded with
  | checksum => exact mismatches_checksum altered differs
  | payload short behindHead inside =>
    exact mismatches_payload short behindHead inside altered differs

end Altered

/-! ## A whole log -/

/-- A frame within a log is the enclosed payload of its batch. -/
theorem Frames.getElem {batches : List Batch} {frames : List Bytes}
    (written : Frames batches frames) {index : Nat} (known : index < frames.length) :
    ∃ payload, payload.length ≤ Frame.payloadLimit ∧ frames[index] = Frame.enclose payload := by
  have frame := congrArg (fun results => results[index]?) written
  rw [List.getElem?_map, List.getElem?_map, List.getElem?_eq_getElem known] at frame
  obtain ⟨batch, _, encoded⟩ := Option.map_eq_some_iff.1 frame
  obtain ⟨payload, -, limited, whole⟩ := Frame.encode_ok encoded
  exact ⟨payload, limited, whole⟩

/-- Each frame ends its own length behind the one before. -/
theorem endOf_succ {frames : List Bytes} {index : Nat} (known : index < frames.length) :
    endOf frames (index + 1) = endOf frames index + frames[index].length := by
  rw [endOf, endOf, List.take_succ_eq_append_getElem known, List.flatten_append]
  simp [Nat.add_assoc]

/-- The last frame ends where the file does. -/
theorem endOf_length (frames : List Bytes) :
    endOf frames frames.length = (head ++ frames.flatten).length := by
  rw [endOf, List.take_length, List.length_append, length_head]

/-- A log is replayed to its first batches and to what is made of the rest. -/
theorem replay_behind {batches : List Batch} {frames : List Bytes} (written : Frames batches frames)
    (index : Nat) (rest : Bytes) :
    replay (head ++ ((frames.take index).flatten ++ rest))
      = (replayFrames (endOf frames index) rest).map
        fun found => { found with batches := batches.take index ++ found.batches } := by
  rw [replay_head, replayFrames_flatten (written.take index)]
  rfl

/-- What replay makes of a log with damage in a guarded window of one frame. -/
theorem replay_guarded {batches : List Batch} {frames : List Bytes}
    (written : Frames batches frames) {index : Nat} (known : index < frames.length)
    {place width : Nat}
    (guarded : Guarded (endOf frames index) (endOf frames (index + 1)) place width)
    {damaged : Bytes} (altered : AlteredWithin place width (head ++ frames.flatten) damaged)
    (differs : damaged ≠ head ++ frames.flatten) :
    (index + 1 < frames.length → ∃ reason, replay damaged = .error ⟨endOf frames index, reason⟩) ∧
      (index + 1 = frames.length →
        replay damaged = .ok ⟨batches.take index, damaged.length - endOf frames index⟩) := by
  obtain ⟨payload, limited, whole⟩ := written.getElem known
  have around : head ++ frames.flatten = (head ++ (frames.take index).flatten)
      ++ (Frame.enclose payload ++ (frames.drop (index + 1)).flatten) := by
    have parts : frames.flatten = (frames.take index).flatten
        ++ (frames[index] ++ (frames.drop (index + 1)).flatten) := by
      rw [← List.flatten_cons, ← List.drop_eq_getElem_cons known, ← List.flatten_append,
        List.take_append_drop]
    rw [parts, whole, List.append_assoc]
  have before : (head ++ (frames.take index).flatten).length = endOf frames index := by
    rw [List.length_append, length_head]
    rfl
  rw [endOf_succ known, whole, ← before] at guarded
  rw [around] at altered differs
  obtain ⟨sum, body, sumWidth, bodyWidth, mismatch, rfl⟩ := guarded.mismatches altered differs
  obtain ⟨reported, torn⟩ := replayFrames_damagedSum (endOf frames index)
    (frames.drop (index + 1)).flatten sumWidth (bodyWidth.symm ▸ limited) mismatch
  generalize Frame.number 4 body.length ++ sum ++ (body ++ (frames.drop (index + 1)).flatten)
    = bytes at reported torn
  -- The length field is as it was, so the damaged frame ends where it did.
  have size : (head ++ (frames.take index).flatten ++ bytes).length - endOf frames index
      = bytes.length := by
    rw [List.length_append, before, Nat.add_sub_cancel_left]
  rw [size, List.append_assoc head, replay_behind written]
  constructor
  · intro more
    have others : (frames.drop (index + 1)).flatten ≠ [] := by
      obtain ⟨next, -, nextWhole⟩ := written.getElem more
      rw [List.drop_eq_getElem_cons more, List.flatten_cons, nextWhole, Frame.enclose]
      exact List.cons_ne_nil _ _
    obtain ⟨reason, refused⟩ := reported others
    exact ⟨reason, by rw [refused]; rfl⟩
  · intro last
    rw [torn (by rw [last, List.drop_length, List.flatten_nil])]
    simp only [Except.map, List.append_nil]

end Log

namespace LogStore

/-- What damage in a guarded window of a frame does to the log of a store. -/
theorem Keeps.guarded {disk : LogStore × FileTree} {batches : List Batch} {frames : List Bytes}
    (keeps : Keeps disk batches frames) {index : Nat} (known : index < frames.length)
    {place width : Nat}
    (guarded : Log.Guarded (Log.endOf frames index) (Log.endOf frames (index + 1)) place width)
    {bytes : Bytes} (altered : AlteredWithin place width (disk.2.content disk.1.file) bytes)
    (differs : bytes ≠ disk.2.content disk.1.file) :
    let damaged := disk.2.fill disk.1.file bytes
    (index + 1 < frames.length → RefusedAt damaged disk.1.directory (Log.endOf frames index)) ∧
      (index + 1 = frames.length →
        CutAt damaged disk.1.directory disk.1.file (batches.take index)
          (Log.endOf frames index)) := by
  intro damaged
  have damagedAt : damaged.LogAt disk.1.directory disk.1.file := keeps.log.fill _ _
  have content : damaged.content disk.1.file = bytes := FileTree.content_fill_self keeps.log.lt _
  have size : bytes.length = (Log.head ++ frames.flatten).length := by
    rw [altered.length, keeps.content]
  have inside : Log.endOf frames index ≤ bytes.length := by
    rw [size]
    exact Log.endOf_le_length frames index
  have filled : bytes ≠ [] := by
    rintro rfl
    cases size
  rw [keeps.content] at altered differs
  obtain ⟨reported, torn⟩ := Log.replay_guarded keeps.written known guarded altered differs
  rw [← content] at reported torn filled inside
  constructor
  · intro more
    obtain ⟨reason, refused⟩ := reported more
    exact refusedAt_of_replay damagedAt filled refused
  · intro last
    exact cutAt_of_replay damagedAt filled inside (torn last)

/-- Any change of a frame that is confined to its checksum, or to up to four neighbouring bytes of
its payload, is reported at the start of that frame if other frames follow, and nothing in the file
changes.  In the last frame it leaves the log as it was before that frame: the frame is the torn
tail, and opening cuts it off. -/
theorem Commits.guardedDamage {tree opened : FileTree} {directory : String} {sync : SyncMode}
    {store : LogStore} {batches : List Batch} {disk : LogStore × FileTree}
    (started : openIn tree directory sync = (.ok store, opened))
    (fresh : tree.content store.file = []) (commits : Commits (store, opened) batches disk) :
    ∃ frames, Log.Frames batches frames ∧
      disk.2.content store.file = Log.head ++ frames.flatten ∧
      ∀ index frame, frames[index]? = some frame →
        let log := disk.2.content store.file
        let start := Log.endOf frames index
        ∀ place width, Log.Guarded start (start + frame.length) place width →
          ∀ bytes, AlteredWithin place width log bytes → bytes ≠ log →
            let damaged := disk.2.fill store.file bytes
            (index + 1 < batches.length → RefusedAt damaged directory start) ∧
              (index + 1 = batches.length →
                bytes.length - start = frame.length ∧
                  start = Log.endOf frames (batches.length - 1) ∧
                  CutAt damaged directory store.file (batches.take (batches.length - 1))
                    start) := by
  obtain ⟨frames, keeps⟩ := commits.keeps (keeps_openIn started fresh)
  obtain ⟨sameDirectory, sameFile⟩ := commits.same
  rw [(openIn_ok started).2.1] at sameDirectory
  have count := keeps.written.length_eq
  refine ⟨frames, keeps.written, sameFile ▸ keeps.content, ?_⟩
  intro index frame found log start place width guarded bytes altered differs
  obtain ⟨known, rfl⟩ := List.getElem?_eq_some_iff.1 found
  have stop : Log.endOf frames (index + 1) = start + frames[index].length := Log.endOf_succ known
  have content : disk.2.content disk.1.file = log := by rw [sameFile]
  have effect := keeps.guarded known (stop ▸ guarded) (content ▸ altered) (content ▸ differs)
  rw [sameDirectory, sameFile] at effect
  obtain ⟨reported, torn⟩ := effect
  refine ⟨fun more => reported (count ▸ more), fun last => ?_⟩
  -- Damage within a window leaves the length of the file.
  have size : bytes.length = start + frames[index].length := by
    calc bytes.length = (Log.head ++ frames.flatten).length := by
          rw [altered.length, ← content, keeps.content]
      _ = Log.endOf frames (index + 1) := by rw [← Log.endOf_length, ← count, last]
      _ = start + frames[index].length := stop
  have previous : batches.length - 1 = index := by omega
  rw [previous]
  exact ⟨by omega, rfl, torn (count ▸ last)⟩

/-- Two commits on a new log, and any guarded damage to either frame. -/
theorem Commits.guardedDamage_twoCommits :
    let store : LogStore := ⟨"d", 0, .onClose, 0, 8, ⟨0, 0⟩⟩
    let opened := (openIn .empty "d" .onClose).2
    let batches : List Batch := [[⟨"p", "k", [1]⟩], [⟨"p", "l", [2]⟩]]
    let one := store.commit opened [⟨"p", "k", [1]⟩]
    let two := one.2.1.commit one.2.2 [⟨"p", "l", [2]⟩]
    openIn .empty "d" .onClose = (.ok store, opened) ∧ one.1 = .ok () ∧ two.1 = .ok () ∧
      ∃ frames, Log.Frames batches frames ∧ two.2.2.content 0 = Log.head ++ frames.flatten ∧
        ∀ index frame, frames[index]? = some frame →
          let log := two.2.2.content 0
          let start := Log.endOf frames index
          ∀ place width, Log.Guarded start (start + frame.length) place width →
            ∀ bytes, AlteredWithin place width log bytes → bytes ≠ log →
              let damaged := two.2.2.fill 0 bytes
              (index + 1 < 2 → RefusedAt damaged "d" start) ∧
                (index + 1 = 2 → bytes.length - start = frame.length ∧
                  start = Log.endOf frames 1 ∧ CutAt damaged "d" 0 (batches.take 1) start) := by
  intro store opened batches one two
  have started : openIn .empty "d" .onClose = (.ok store, opened) := rfl
  have firstDone : one.1 = .ok () := rfl
  have secondDone : two.1 = .ok () := rfl
  have commits : Commits (store, opened) batches two.2 :=
    .commit (.commit .opened (by simp) (Prod.ext firstDone rfl)) (by simp) (Prod.ext secondDone rfl)
  exact ⟨started, firstDone, secondDone, commits.guardedDamage started rfl⟩

end LogStore

end CausalTrace
