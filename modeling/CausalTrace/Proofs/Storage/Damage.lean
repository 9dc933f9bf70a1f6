import CausalTrace.Proofs.Storage.Logs

/-!
# A damaged length field

A frame states its length in front of its payload, and nothing protects that field but the payload
itself.  Replay compares the end that the field claims with the end of the log.  A claimed end
before the end of the log is seen for what it is, even if the checksum agrees, because no other
length holds a whole payload.  A claimed end at or behind the end of the log looks like a torn tail,
and then every frame from there on is left out; only a length that no frame may have is refused.
-/

namespace CausalTrace

namespace Log

/-- Whether a damaged length field shows: the frame it claims ends before the end of the log, or
behind it and no frame may be that large. -/
def ShowsDamage (start claimed size : Nat) : Prop :=
  start + Frame.headSize + claimed < size ∨
    size < start + Frame.headSize + claimed ∧ Frame.payloadLimit < claimed

/-- What replay makes of a frame whose length field was replaced. -/
theorem replayFrames_damagedLength {payload field : Bytes} {batch : Batch} (sum start : Nat)
    (rest : Bytes) (read : Frame.decodePayload payload = .ok batch) (width : field.length = 4)
    (other : Frame.value field ≠ payload.length) :
    let bytes := field ++ Frame.number 4 sum ++ (payload ++ rest)
    (ShowsDamage start (Frame.value field) (start + bytes.length) →
        ∃ reason, replayFrames start bytes = .error ⟨start, reason⟩) ∧
      (¬ShowsDamage start (Frame.value field) (start + bytes.length) →
        replayFrames start bytes = .ok ⟨[], bytes.length⟩) := by
  intro bytes
  have size : bytes.length = Frame.headSize + (payload ++ rest).length := by
    simp [bytes, width, Frame.headSize]
    omega
  have claimed : Frame.claimedSize? bytes = some (Frame.headSize + Frame.value field) := by
    rw [Frame.claimedSize?, if_neg (by omega)]
    simp [bytes, List.take_left' width]
  rw [ShowsDamage, size]
  -- A permitted length that leads beyond the end looks like a frame that was torn off; any other
  -- wrong length leads to a wrong checksum or limit.
  by_cases beyond : Frame.value field ≤ Frame.payloadLimit ∧
      (payload ++ rest).length < Frame.value field
  · obtain ⟨present, needed, incomplete⟩ :=
      Frame.decode_lengthBeyond sum width beyond.1 beyond.2
    constructor
    · intro shows
      omega
    · intro _
      rw [replayFrames_incomplete incomplete, size]
  · obtain ⟨damage, corrupt⟩ : ∃ damage, Frame.decode bytes = .error (.corrupt damage) :=
      Frame.decode_lengthWithin sum read width other (by omega)
    have replayed := replayFrames_corrupt corrupt start
    rw [claimed, size] at replayed
    constructor
    · intro shows
      rw [if_neg (by simp only [Option.some.injEq]; omega)] at replayed
      exact ⟨_, replayed⟩
    · intro hidden
      rw [if_pos (by simp only [Option.some.injEq]; omega)] at replayed
      exact replayed

/-- The bytes of a log around the length field of one of its frames. -/
theorem around_length {batches : List Batch} {frames : List Bytes} (written : Frames batches frames)
    {index : Nat} (known : index < frames.length) :
    ∃ batch payload, Frame.decodePayload payload = .ok batch ∧
      head ++ frames.flatten = (head ++ (frames.take index).flatten)
        ++ (Frame.number 4 payload.length ++ Frame.number 4 (Checksum.crc32 payload)
          ++ (payload ++ (frames.drop (index + 1)).flatten)) := by
  have frame := congrArg (fun results => results[index]?) written
  rw [List.getElem?_map, List.getElem?_map, List.getElem?_eq_getElem known] at frame
  obtain ⟨batch, _, encoded⟩ := Option.map_eq_some_iff.1 frame
  obtain ⟨payload, payloadWritten, -, whole⟩ := Frame.encode_ok encoded
  refine ⟨batch, payload, Frame.decodePayload_encodePayload payloadWritten, ?_⟩
  have parts : frames.flatten = (frames.take index).flatten
      ++ (frames[index] ++ (frames.drop (index + 1)).flatten) := by
    rw [← List.flatten_cons, ← List.drop_eq_getElem_cons known, ← List.flatten_append,
      List.take_append_drop]
  rw [parts, whole, Frame.enclose]
  simp only [List.append_assoc]

/-- What replay makes of a log with one damaged length field. -/
theorem replay_damagedLength {batches : List Batch} {frames : List Bytes}
    (written : Frames batches frames) {index : Nat} (known : index < frames.length)
    {field : Bytes} (width : field.length = 4)
    (differs : field ≠ ((head ++ frames.flatten).drop (endOf frames index)).take 4) :
    let log := head ++ frames.flatten
    let start := endOf frames index
    let damaged := LogStore.overlay log start field
    damaged.length = log.length ∧
      (ShowsDamage start (Frame.value field) log.length →
        ∃ reason, replay damaged = .error ⟨start, reason⟩) ∧
      (¬ShowsDamage start (Frame.value field) log.length →
        replay damaged = .ok ⟨batches.take index, log.length - start⟩) := by
  intro log start damaged
  obtain ⟨batch, payload, read, around⟩ := around_length written known
  have before : (head ++ (frames.take index).flatten).length = start := by
    rw [List.length_append, length_head]
    rfl
  have replaced : damaged = (head ++ (frames.take index).flatten)
      ++ (field ++ Frame.number 4 (Checksum.crc32 payload)
        ++ (payload ++ (frames.drop (index + 1)).flatten)) := by
    change LogStore.overlay (head ++ frames.flatten) start field = _
    rw [around, ← before, List.append_assoc field,
      List.append_assoc (Frame.number 4 payload.length)]
    exact LogStore.overlay_within (width.trans (Frame.length_number _ _).symm) _ _
  -- Four bytes that spell the old length are the old bytes.
  have other : Frame.value field ≠ payload.length := by
    intro same
    have old : ((head ++ frames.flatten).drop start).take 4 = Frame.number 4 payload.length := by
      rw [around, List.drop_left' before, List.append_assoc,
        List.take_left' (Frame.length_number _ _)]
    refine differs (old.trans ?_).symm
    rw [← same, ← width, Frame.number_value]
  have size : start + (field ++ Frame.number 4 (Checksum.crc32 payload)
      ++ (payload ++ (frames.drop (index + 1)).flatten)).length = log.length := by
    change _ = (head ++ frames.flatten).length
    rw [around, ← before]
    simp only [List.length_append, width, Frame.length_number]
  -- The frames in front of the damage are replayed as before.
  have replayed : replay damaged = (replayFrames start
      (field ++ Frame.number 4 (Checksum.crc32 payload)
        ++ (payload ++ (frames.drop (index + 1)).flatten))).map
        fun rest => { rest with batches := batches.take index ++ rest.batches } := by
    rw [replaced, List.append_assoc head, replay_head, replayFrames_flatten (written.take index)]
    rfl
  obtain ⟨shown, hidden⟩ := replayFrames_damagedLength (Checksum.crc32 payload) start
    (frames.drop (index + 1)).flatten read width other
  rw [size] at shown hidden
  refine ⟨?_, fun shows => ?_, fun hides => ?_⟩
  · rw [replaced, ← size, List.length_append, before]
  · obtain ⟨reason, refused⟩ := shown shows
    exact ⟨reason, by rw [replayed, refused]; rfl⟩
  · rw [replayed, hidden hides, ← size]
    simp [Except.map]

end Log

namespace LogStore

/-- The log of a directory is refused by whoever opens or reads it, with the place of the damage,
and opening leaves every byte of it. -/
def RefusedAt (tree : FileTree) (directory : String) (offset : Nat) : Prop :=
  ∃ reason, LogSnapshot.read tree directory = .error (.corruption offset reason) ∧
    ∀ sync, openIn tree directory sync = (.error (.corruption offset reason), tree)

/-- The log of a directory is read as the batches in front of an offset, and opening
cuts it off there. -/
def CutAt (tree : FileTree) (directory : String) (file : Nat) (batches : List Batch)
    (offset : Nat) : Prop :=
  let recovery : Recovery := ⟨batches.length, (tree.content file).length - offset⟩
  LogSnapshot.read tree directory
      = .ok ⟨directory, Contents.empty.applyAll batches, recovery⟩ ∧
    ∀ sync, ∃ store, openIn tree directory sync
        = (.ok store, tree.fill file ((tree.content file).take offset)) ∧
      store.recovery = recovery

/-- A directory is refused by readers and by openers where replay of its log fails. -/
theorem refusedAt_of_replay {tree : FileTree} {directory : String} {file offset : Nat}
    {reason : String} (log : tree.LogAt directory file) (filled : tree.content file ≠ [])
    (refused : Log.replay (tree.content file) = .error ⟨offset, reason⟩) :
    RefusedAt tree directory offset := by
  refine ⟨reason, ?_, fun sync => ?_⟩
  · rw [read_log log, LogSnapshot.ofLog, refused]
    rfl
  · rw [openIn_log log, repair, if_neg filled, refused]
    rfl

/-- A log with a torn tail is read up to it, and opening cuts the tail off. -/
theorem cutAt_of_replay {tree : FileTree} {directory : String} {file offset : Nat}
    {batches : List Batch} (log : tree.LogAt directory file) (filled : tree.content file ≠ [])
    (within : offset ≤ (tree.content file).length)
    (replayed : Log.replay (tree.content file)
      = .ok ⟨batches, (tree.content file).length - offset⟩) :
    CutAt tree directory file batches offset := by
  refine ⟨read_replayed log replayed, fun sync => ?_⟩
  have kept : (tree.content file).length - ((tree.content file).length - offset) = offset := by
    omega
  rw [openIn_log log, repair, if_neg filled, replayed]
  simp only [Except.map, kept]
  exact ⟨_, rfl, rfl⟩

/-- What a replaced length field does to the log of a store. -/
theorem Keeps.damagedLength {disk : LogStore × FileTree} {batches : List Batch}
    {frames : List Bytes} (keeps : Keeps disk batches frames) (index : Nat)
    (known : index < batches.length) (field : Bytes) (width : field.length = 4) :
    let log := disk.2.content disk.1.file
    let start := Log.endOf frames index
    let damaged := disk.2.fill disk.1.file (overlay log start field)
    field ≠ (log.drop start).take 4 →
      (Log.ShowsDamage start (Frame.value field) log.length →
        RefusedAt damaged disk.1.directory start) ∧
      (¬Log.ShowsDamage start (Frame.value field) log.length →
        CutAt damaged disk.1.directory disk.1.file (batches.take index) start) := by
  intro log start damaged differs
  rw [keeps.written.length_eq] at known
  have damagedAt : damaged.LogAt disk.1.directory disk.1.file := keeps.log.fill _ _
  have bytes : damaged.content disk.1.file = overlay log start field :=
    FileTree.content_fill_self keeps.log.lt _
  have logBytes : log = Log.head ++ frames.flatten := keeps.content
  have inside : start ≤ log.length := by
    rw [logBytes]
    exact Log.endOf_le_length frames index
  obtain ⟨size, shown, hidden⟩ :=
    Log.replay_damagedLength keeps.written known width (by rw [← logBytes]; exact differs)
  rw [← logBytes, ← bytes] at size shown hidden
  have filled : damaged.content disk.1.file ≠ [] := by
    intro empty
    rw [empty, logBytes] at size
    cases size
  refine ⟨fun shows => ?_, fun hides => ?_⟩
  · obtain ⟨reason, refused⟩ := shown shows
    exact refusedAt_of_replay damagedAt filled refused
  · have replayed := hidden hides
    rw [← size] at replayed inside
    exact cutAt_of_replay damagedAt filled inside replayed

/-- What is cut is not refused anywhere. -/
theorem CutAt.not_refusedAt {tree : FileTree} {directory : String} {file offset other : Nat}
    {batches : List Batch} (cut : CutAt tree directory file batches offset) :
    ¬RefusedAt tree directory other := by
  rintro ⟨reason, refused, _⟩
  rw [cut.1] at refused
  cases refused

/-- Replacing the length field of a frame is reported at the start of that frame, without a change
to the file, exactly if the damage shows.  Otherwise that frame and all after it are left out, and
opening the log cuts them off. -/
theorem Commits.damagedLength_iff {tree opened : FileTree} {directory : String} {sync : SyncMode}
    {store : LogStore} {batches : List Batch} {disk : LogStore × FileTree}
    (started : openIn tree directory sync = (.ok store, opened))
    (fresh : tree.content store.file = []) (commits : Commits (store, opened) batches disk) :
    ∃ frames, Log.Frames batches frames ∧
      disk.2.content store.file = Log.head ++ frames.flatten ∧
      ∀ index < batches.length, ∀ field : Bytes, field.length = 4 →
        let log := disk.2.content store.file
        let start := Log.endOf frames index
        let damaged := disk.2.fill store.file (overlay log start field)
        field ≠ (log.drop start).take 4 →
          (RefusedAt damaged directory start ↔
            Log.ShowsDamage start (Frame.value field) log.length) ∧
          (¬RefusedAt damaged directory start →
            CutAt damaged directory store.file (batches.take index) start) := by
  obtain ⟨frames, keeps⟩ := commits.keeps (keeps_openIn started fresh)
  obtain ⟨sameDirectory, sameFile⟩ := commits.same
  rw [(openIn_ok started).2.1] at sameDirectory
  refine ⟨frames, keeps.written, sameFile ▸ keeps.content, fun index known field width => ?_⟩
  intro log start damaged differs
  have effect := keeps.damagedLength index known field width
  rw [sameDirectory, sameFile] at effect
  obtain ⟨shown, hidden⟩ := effect differs
  by_cases shows : Log.ShowsDamage start (Frame.value field) log.length
  · exact ⟨⟨fun _ => shows, shown⟩, fun accepted => absurd (shown shows) accepted⟩
  · exact ⟨⟨fun refused => absurd refused (hidden shows).not_refusedAt,
      fun shows' => absurd shows' shows⟩, fun _ => hidden shows⟩

/-- Two commits on a new log, and any length field of the two replaced by any other. -/
theorem Commits.damagedLength_iff_twoCommits :
    let store : LogStore := ⟨"d", 0, .onClose, 0, 8, ⟨0, 0⟩⟩
    let opened := (openIn .empty "d" .onClose).2
    let first : Batch := [⟨"p", "k", [1]⟩]
    let second : Batch := [⟨"p", "l", [2]⟩]
    let one := store.commit opened first
    let two := one.2.1.commit one.2.2 second
    openIn .empty "d" .onClose = (.ok store, opened) ∧ one.1 = .ok () ∧ two.1 = .ok () ∧
      ∃ frames, Log.Frames [first, second] frames ∧
        two.2.2.content 0 = Log.head ++ frames.flatten ∧
        ∀ index < 2, ∀ field : Bytes, field.length = 4 →
          let log := two.2.2.content 0
          let start := Log.endOf frames index
          let damaged := two.2.2.fill 0 (overlay log start field)
          field ≠ (log.drop start).take 4 →
            (RefusedAt damaged "d" start ↔
              Log.ShowsDamage start (Frame.value field) log.length) ∧
            (¬RefusedAt damaged "d" start →
              CutAt damaged "d" 0 ([first, second].take index) start) := by
  intro store opened first second one two
  have started : openIn .empty "d" .onClose = (.ok store, opened) := rfl
  have firstDone : one.1 = .ok () := rfl
  have secondDone : two.1 = .ok () := rfl
  have commits : Commits (store, opened) [first, second] two.2 :=
    .commit (.commit .opened (by simp [first]) (Prod.ext firstDone rfl)) (by simp [second])
      (Prod.ext secondDone rfl)
  exact ⟨started, firstDone, secondDone, commits.damagedLength_iff started rfl⟩

/-- Of two commits the first claims to end where the log ends: both are left out without a word, and
opening the log cuts them off. -/
theorem cutAt_longFirstFrame :
    let store : LogStore := ⟨"d", 0, .onClose, 0, 8, ⟨0, 0⟩⟩
    let one := store.commit (openIn .empty "d" .onClose).2 [⟨"p", "k", [49]⟩]
    let two := one.2.1.commit one.2.2 [⟨"p", "l", [50]⟩]
    let damaged := two.2.2.fill 0 (overlay (two.2.2.content 0) 8 [42, 0, 0, 0])
    one.1 = .ok () ∧ two.1 = .ok () ∧ ¬RefusedAt damaged "d" 8 ∧ CutAt damaged "d" 0 [] 8 := by
  intro store one two damaged
  have started : openIn .empty "d" .onClose = (.ok store, (openIn .empty "d" .onClose).2) := rfl
  have firstDone : one.1 = .ok () := rfl
  have secondDone : two.1 = .ok () := rfl
  have commits : Commits (store, (openIn .empty "d" .onClose).2)
      [[⟨"p", "k", [49]⟩], [⟨"p", "l", [50]⟩]] two.2 :=
    .commit (.commit .opened (by simp) (Prod.ext firstDone rfl)) (by simp) (Prod.ext secondDone rfl)
  obtain ⟨frames, keeps⟩ := commits.keeps (keeps_openIn started rfl)
  obtain ⟨directory, file⟩ := commits.same
  have start : Log.endOf frames 0 = 8 := rfl
  have size : (two.2.2.content 0).length = 58 := by decide +kernel
  have differs : ([42, 0, 0, 0] : Bytes) ≠ ((two.2.2.content 0).drop 8).take 4 := by decide +kernel
  have effect := keeps.damagedLength 0 (by decide) [42, 0, 0, 0] rfl
  rw [directory, file, start] at effect
  have cut : CutAt damaged "d" 0 [] 8 :=
    (effect differs).2 (by rw [size, Log.ShowsDamage]; decide)
  exact ⟨firstDone, secondDone, cut.not_refusedAt, cut⟩

end LogStore

end CausalTrace
