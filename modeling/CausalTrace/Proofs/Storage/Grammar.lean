import CausalTrace.Proofs.Storage.Canonical
import CausalTrace.Proofs.Storage.Logs
import Mathlib.Data.List.Forall2

/-!
# The language of logs

A log is a head, then frames, then a torn tail, which may be empty.  `Form` says which byte strings
these are without reference to replay: it knows single frames and the length that a frame claims.
Reading accepts exactly the byte strings that have a form.  A form is unique, because no torn tail
starts with a frame, and it says all that reading finds.  A byte string without a form has a bad
head or a damaged frame in front of its tail, and is refused with the place of that.
-/

namespace CausalTrace

namespace Frame

/-- What starts with no frame is incomplete exactly if its head is, or if the end that it claims
lies behind it and no frame may be larger. -/
theorem decode_incomplete_iff {bytes : Bytes} :
    (∃ present needed, decode bytes = .error (.incomplete present needed)) ↔
      bytes.length < headSize ∨
        value (bytes.take 4) ≤ payloadLimit ∧ bytes.length < headSize + value (bytes.take 4) := by
  by_cases short : bytes.length < headSize
  · have headless : (bytes.take headSize).length < headSize := by
      rw [List.length_take]
      omega
    refine iff_of_true ⟨bytes.length, headSize, ?_⟩ (.inl short)
    simp only [decode, headless, if_true]
  · obtain ⟨fieldWidth, sumWidth, fields⟩ := eq_fields (Nat.le_of_not_lt short)
    have behind : (bytes.drop headSize).length = bytes.length - headSize := List.length_drop
    have decoded : decode bytes = _ :=
      (congrArg decode fields).trans (decode_append fieldWidth sumWidth _)
    rw [decoded, behind]
    constructor
    · rintro ⟨present, needed, incomplete⟩
      split at incomplete
      next => cases incomplete
      next limited =>
        split at incomplete
        next beyond => exact .inr ⟨Nat.le_of_not_lt limited, by omega⟩
        next =>
          split at incomplete
          next => cases incomplete
          next => split at incomplete <;> cases incomplete
    · rintro (headless | ⟨limited, beyond⟩)
      · exact absurd headless short
      · rw [if_neg (by omega), if_pos (by omega)]
        exact ⟨_, _, rfl⟩

/-- A frame whose head is whole claims to end with the bytes if the length that it
states ends there. -/
theorem claimedSize?_eq_length_iff {bytes : Bytes} (long : headSize ≤ bytes.length) :
    claimedSize? bytes = some bytes.length ↔
      bytes.length = headSize + value (bytes.take 4) := by
  rw [claimedSize?, if_neg (by omega), Option.some.injEq]
  exact eq_comm

end Frame

namespace Log

/-! ## Forms -/

/-- A head has its size, its magic and its version; the reserved bytes are free. -/
structure IsHead (bytes : Bytes) : Prop where
  size : bytes.length = headSize
  magic : bytes.take 4 = magic
  version : Frame.value ((bytes.drop 4).take 2) = version

/-- What may stand behind the last frame of a log, and is left out. -/
inductive Torn (tail : Bytes) : Prop where
  | empty (nothing : tail = [])
  /-- The head of a frame is cut off. -/
  | short (headless : tail.length < Frame.headSize)
  /-- A frame of an admissible length is cut off. -/
  | beyond (long : Frame.headSize ≤ tail.length)
      (limited : Frame.value (tail.take 4) ≤ Frame.payloadLimit)
      (runsPast : tail.length < Frame.headSize + Frame.value (tail.take 4))
  /-- A damaged frame claims to end where the log ends. -/
  | damaged {damage} (long : Frame.headSize ≤ tail.length)
      (refused : Frame.decode tail = .error (.corrupt damage))
      (claims : tail.length = Frame.headSize + Frame.value (tail.take 4))

/-- Frames that are decoded as batches, each from its own bytes. -/
def Decodes (frames : List Bytes) (batches : List Batch) : Prop :=
  List.Forall₂ (fun frame batch => Frame.decode frame = .ok (batch, frame.length)) frames batches

/-- The parts of a log, with the batches of its frames. -/
structure Form where
  head : Bytes
  frames : List Bytes
  batches : List Batch
  tail : Bytes
  deriving DecidableEq, Repr

/-- A form is one of a byte string. -/
structure Form.Of (form : Form) (bytes : Bytes) : Prop where
  head : IsHead form.head
  frames : Decodes form.frames form.batches
  tail : Torn form.tail
  whole : form.head ++ (form.frames.flatten ++ form.tail) = bytes

/-- Frames are decoded as the batches they were written for. -/
theorem decodes_iff {frames : List Bytes} {batches : List Batch} :
    Decodes frames batches ↔ Frames batches frames := by
  constructor
  · intro decodes
    induction decodes with
    | nil => rfl
    | cons decoded _ ih =>
      rw [Frames, List.map_cons, List.map_cons, ih, Frame.decode_whole_iff.1 decoded]
  · intro written
    induction frames generalizing batches with
    | nil =>
      have none := written.length_eq
      rw [List.length_nil, List.length_eq_zero_iff] at none
      exact none ▸ .nil
    | cons frame others ih =>
      obtain ⟨batch, later, rfl, encoded, rest⟩ := written.uncons
      exact .cons (Frame.decode_whole_iff.2 encoded) (ih rest)

/-! ## Heads -/

/-- A head passes if it has the marks and the version of this format. -/
theorem checkHead_ok_iff {bytes : Bytes} :
    checkHead bytes = .ok () ↔ IsHead (bytes.take headSize) := by
  -- The checks look at the same bytes whether or not more follow behind the head.
  have magical : (bytes.take headSize).take 4 = bytes.take 4 := List.take_take
  have current : ((bytes.take headSize).drop 4).take 2 = (bytes.drop 4).take 2 := by
    rw [headSize, List.drop_take, List.take_take]
    rfl
  unfold checkHead
  constructor
  · intro accepted
    split at accepted
    next => cases accepted
    next long =>
      split at accepted
      next => cases accepted
      next sign =>
        dsimp only at accepted
        split at accepted
        next => cases accepted
        next number =>
          exact ⟨List.length_take_of_le (Nat.le_of_not_lt long),
            magical.trans (Decidable.not_not.1 sign),
            (congrArg Frame.value current).trans (Decidable.not_not.1 number)⟩
  · rintro ⟨size, sign, number⟩
    rw [List.length_take] at size
    rw [magical] at sign
    rw [current] at number
    rw [if_neg (by omega), if_neg (not_not_intro sign)]
    exact if_neg (not_not_intro number)

/-! ## Tails -/

/-- A frame is not found to be damaged before its head is there. -/
theorem headSize_le_of_corrupt {rest : Bytes} {damage : Frame.Damage}
    (refused : Frame.decode rest = .error (.corrupt damage)) : Frame.headSize ≤ rest.length := by
  refine Nat.le_of_not_lt fun headless => ?_
  obtain ⟨_, _, incomplete⟩ := Frame.decode_incomplete_iff.2 (.inl headless)
  rw [refused] at incomplete
  cases incomplete

/-- A tail is torn if it is incomplete, or damaged and claims to end where it ends. -/
theorem torn_iff {tail : Bytes} : Torn tail ↔
    (∃ present needed, Frame.decode tail = .error (.incomplete present needed)) ∨
      ∃ damage, Frame.decode tail = .error (.corrupt damage) ∧
        Frame.claimedSize? tail = some tail.length := by
  constructor
  · intro torn
    cases torn with
    | empty nothing => exact .inl (Frame.decode_incomplete_iff.2 (.inl (by rw [nothing]; decide)))
    | short headless => exact .inl (Frame.decode_incomplete_iff.2 (.inl headless))
    | beyond _ limited runsPast =>
      exact .inl (Frame.decode_incomplete_iff.2 (.inr ⟨limited, runsPast⟩))
    | damaged long refused claims =>
      exact .inr ⟨_, refused, (Frame.claimedSize?_eq_length_iff long).2 claims⟩
  · rintro (incomplete | ⟨damage, refused, claims⟩)
    · rcases Nat.lt_or_ge tail.length Frame.headSize with headless | long
      · exact .short headless
      · rcases Frame.decode_incomplete_iff.1 incomplete with headless | ⟨limited, runsPast⟩
        · exact .short headless
        · exact .beyond long limited runsPast
    · have long := headSize_le_of_corrupt refused
      exact .damaged long refused ((Frame.claimedSize?_eq_length_iff long).1 claims)

/-- A torn tail starts with no frame. -/
theorem Torn.not_decoded {tail : Bytes} (torn : Torn tail) (found : Batch × Nat) :
    Frame.decode tail ≠ .ok found := by
  rcases torn_iff.1 torn with ⟨present, needed, incomplete⟩ | ⟨damage, refused, -⟩
  · rw [incomplete]
    exact nofun
  · rw [refused]
    exact nofun

/-- What starts with no frame is a torn tail, or it is damaged and claims another end. -/
theorem torn_or_corrupt {rest : Bytes} (none : ∀ found, Frame.decode rest ≠ .ok found) :
    Torn rest ∨ ∃ damage, Frame.decode rest = .error (.corrupt damage) ∧
      Frame.claimedSize? rest ≠ some rest.length := by
  cases decoded : Frame.decode rest with
  | ok found => exact absurd decoded (none found)
  | error fault =>
    cases fault with
    | incomplete present needed => exact .inl (torn_iff.2 (.inl ⟨present, needed, decoded⟩))
    | corrupt damage =>
      by_cases claims : Frame.claimedSize? rest = some rest.length
      · exact .inl (torn_iff.2 (.inr ⟨damage, decoded, claims⟩))
      · exact .inr ⟨damage, rfl, claims⟩

/-- A torn tail is left out. -/
theorem Torn.replayFrames {tail : Bytes} (torn : Torn tail) (offset : Nat) :
    replayFrames offset tail = .ok ⟨[], tail.length⟩ := by
  rcases torn_iff.1 torn with ⟨present, needed, incomplete⟩ | ⟨damage, refused, claims⟩
  · exact replayFrames_incomplete incomplete offset
  · rw [replayFrames_corrupt refused offset, if_pos claims]

/-! ## Frames in front of the rest -/

/-- Any bytes are frames and then something that starts with no frame. -/
theorem exists_split (bytes : Bytes) : ∃ frames batches rest, Decodes frames batches ∧
    bytes = frames.flatten ++ rest ∧ ∀ found, Frame.decode rest ≠ .ok found := by
  -- A frame is never empty, so what is left becomes shorter with each.
  induction length : bytes.length using Nat.strongRecOn generalizing bytes with
  | ind _ ih =>
    cases decoded : Frame.decode bytes with
    | error fault => exact ⟨[], [], bytes, .nil, rfl, fun found => by rw [decoded]; exact nofun⟩
    | ok found =>
      obtain ⟨batch, size⟩ := found
      obtain ⟨filled, within⟩ := Frame.decode_size decoded
      have written := Frame.decode_whole_iff.2 (Frame.encode_of_decode decoded).2
      obtain ⟨frames, batches, rest, decodes, split, none⟩ := ih (bytes.drop size).length
        (by rw [Frame.headSize] at filled; rw [List.length_drop]; omega) (bytes.drop size) rfl
      refine ⟨bytes.take size :: frames, batch :: batches, rest, .cons written decodes, ?_, none⟩
      rw [List.flatten_cons, List.append_assoc, ← split, List.take_append_drop]

/-- There is one such way. -/
theorem split_unique {frames others : List Bytes} {batches laters : List Batch}
    {rest left : Bytes} (decodes : Decodes frames batches) (decodesOthers : Decodes others laters)
    (none : ∀ found, Frame.decode rest ≠ .ok found)
    (noneLeft : ∀ found, Frame.decode left ≠ .ok found)
    (same : frames.flatten ++ rest = others.flatten ++ left) :
    frames = others ∧ batches = laters ∧ rest = left := by
  have starts {frame : Bytes} {batch : Batch} (more : Bytes)
      (decoded : Frame.decode frame = .ok (batch, frame.length)) :
      Frame.decode (frame ++ more) = .ok (batch, frame.length) :=
    Frame.decode_encode (Frame.decode_whole_iff.1 decoded) more
  -- Both begin with the frame that the bytes decode to, or with none.
  induction decodes generalizing others laters with
  | nil =>
    cases decodesOthers with
    | nil => exact ⟨rfl, rfl, same⟩
    | cons decoded _ =>
      rw [List.flatten_nil, List.nil_append, List.flatten_cons, List.append_assoc] at same
      exact absurd (same ▸ starts _ decoded) (none _)
  | @cons frame batch frames batches decoded decodes ih =>
    rw [List.flatten_cons, List.append_assoc] at same
    cases decodesOthers with
    | nil =>
      rw [List.flatten_nil, List.nil_append] at same
      exact absurd (same ▸ starts _ decoded) (noneLeft _)
    | @cons other later others laters decodedOther decodesOthers =>
      rw [List.flatten_cons, List.append_assoc] at same
      have first := starts (frames.flatten ++ rest) decoded
      rw [same, starts _ decodedOther] at first
      obtain ⟨rfl, size⟩ := Prod.mk.inj (Except.ok.inj first)
      obtain ⟨rfl, behind⟩ := List.append_inj same size.symm
      obtain ⟨rfl, rfl, rfl⟩ := ih decodesOthers behind
      exact ⟨rfl, rfl, rfl⟩

/-! ## Whole logs -/

/-- Behind a good head the frames are replayed. -/
theorem replay_of_isHead {bytes : Bytes} (isHead : IsHead (bytes.take headSize)) :
    replay bytes = replayFrames headSize (bytes.drop headSize) := by
  rw [replay, checkHead_ok_iff.2 isHead]

/-- Where the parts of a form stand. -/
theorem Form.Of.parts {form : Form} {bytes : Bytes} (of : form.Of bytes) :
    bytes.take headSize = form.head ∧ bytes.drop headSize = form.frames.flatten ++ form.tail :=
  ⟨by rw [← of.whole, List.take_left' of.head.size],
    by rw [← of.whole, List.drop_left' of.head.size]⟩

/-- A log is replayed to what its form says. -/
theorem Form.Of.replay {form : Form} {bytes : Bytes} (of : form.Of bytes) :
    replay bytes = .ok ⟨form.batches, form.tail.length⟩ := by
  obtain ⟨front, behind⟩ := of.parts
  rw [replay_of_isHead (front ▸ of.head), behind, replayFrames_flatten (decodes_iff.1 of.frames),
    of.tail.replayFrames]
  simp only [Except.map, List.append_nil]

/-- Bytes have one form at most. -/
theorem Form.Of.unique {form other : Form} {bytes : Bytes} (of : form.Of bytes)
    (ofOther : other.Of bytes) : other = form := by
  obtain ⟨front, behind⟩ := of.parts
  obtain ⟨frontOther, behindOther⟩ := ofOther.parts
  obtain ⟨frames, batches, tail⟩ := split_unique ofOther.frames of.frames ofOther.tail.not_decoded
    of.tail.not_decoded (behindOther.symm.trans behind)
  have head := frontOther.symm.trans front
  cases form
  cases other
  simp only at head frames batches tail
  rw [head, frames, batches, tail]

/-- A damaged frame at an offset, in front of which all frames are sound, that does not claim to
end where the log ends. -/
structure DamagedAt (bytes : Bytes) (offset : Nat) (damage : Frame.Damage) : Prop where
  sound : ∃ frames batches, Decodes frames batches ∧ frames.flatten <+: bytes.drop headSize ∧
    offset = headSize + frames.flatten.length
  refused : Frame.decode (bytes.drop offset) = .error (.corrupt damage)
  claims : Frame.claimedSize? (bytes.drop offset) ≠ some (bytes.drop offset).length

/-- Damage behind a good head is reported with its offset and reason. -/
theorem DamagedAt.replay {bytes : Bytes} {offset : Nat} {damage : Frame.Damage}
    (isHead : IsHead (bytes.take headSize)) (damaged : DamagedAt bytes offset damage) :
    replay bytes = .error ⟨offset, damage.message⟩ := by
  obtain ⟨⟨frames, batches, decodes, ⟨rest, split⟩, rfl⟩, refused, claims⟩ := damaged
  rw [← List.drop_drop, ← split, List.drop_left] at refused claims
  rw [replay_of_isHead isHead, ← split, replayFrames_flatten (decodes_iff.1 decodes),
    replayFrames_corrupt refused, if_neg claims]
  rfl

/-- Bytes behind a head have a form or a damaged frame. -/
theorem form_or_damagedAt {bytes : Bytes} (isHead : IsHead (bytes.take headSize)) :
    (∃ form : Form, form.Of bytes) ∨ ∃ offset damage, DamagedAt bytes offset damage := by
  obtain ⟨frames, batches, rest, decodes, split, none⟩ := exists_split (bytes.drop headSize)
  rcases torn_or_corrupt none with torn | ⟨damage, refused, claims⟩
  · refine .inl ⟨⟨bytes.take headSize, frames, batches, rest⟩, isHead, decodes, torn, ?_⟩
    rw [← split, List.take_append_drop]
  · have behind : bytes.drop (headSize + frames.flatten.length) = rest := by
      rw [← List.drop_drop, split, List.drop_left]
    exact .inr ⟨headSize + frames.flatten.length, damage,
      ⟨frames, batches, decodes, ⟨rest, split.symm⟩, rfl⟩, behind ▸ refused, behind ▸ claims⟩

end Log

namespace LogSnapshot

/-- The log of a directory is read exactly if its bytes have a form, which is then unique and says
what is found.  Otherwise it is refused: at its start if its head is bad, and else where the first
frame starts that is refused. -/
theorem read_iff_form {tree : FileTree} {directory : String} {bytes : Bytes}
    (content : tree.read (LogStore.filePath directory) = .ok bytes) :
    ((∃ snapshot, read tree directory = .ok snapshot) ↔ ∃ form : Log.Form, form.Of bytes) ∧
      (∀ form : Log.Form, form.Of bytes →
        (∀ other : Log.Form, other.Of bytes → other = form) ∧
          read tree directory = .ok ⟨directory, Contents.empty.applyAll form.batches,
            ⟨form.frames.length, form.tail.length⟩⟩) ∧
      ((¬∃ form : Log.Form, form.Of bytes) →
        (¬Log.IsHead (bytes.take Log.headSize) →
          ∃ reason, read tree directory = .error (.corruption 0 reason)) ∧
        (Log.IsHead (bytes.take Log.headSize) →
          ∃ offset damage, Log.DamagedAt bytes offset damage ∧
            read tree directory = .error (.corruption offset damage.message))) := by
  have refused {found : Log.Corruption} (replayed : Log.replay bytes = .error found) :
      read tree directory = .error (LogStore.corruption found) := by
    rw [read, content]
    dsimp only
    rw [ofLog, replayed]
    rfl
  have accepted (form : Log.Form) (of : form.Of bytes) : read tree directory
      = .ok ⟨directory, Contents.empty.applyAll form.batches,
        ⟨form.frames.length, form.tail.length⟩⟩ := by
    rw [read, content]
    dsimp only
    rw [ofLog, of.replay, of.frames.length_eq]
    rfl
  have badHead (bad : ¬Log.IsHead (bytes.take Log.headSize)) :
      ∃ reason, read tree directory = .error (.corruption 0 reason) := by
    cases checked : Log.checkHead bytes with
    | ok => exact absurd (Log.checkHead_ok_iff.1 checked) bad
    | error fault =>
      have replayed : Log.replay bytes = .error ⟨0, fault.message⟩ := by
        rw [Log.replay, checked]
      exact ⟨fault.message, refused replayed⟩
  -- Bytes have a good head and a form, a good head and damage, or a bad head.
  refine ⟨⟨?_, fun formed => formed.elim fun form of => ⟨_, accepted form of⟩⟩,
    fun form of => ⟨fun _ => of.unique, accepted form of⟩,
    fun formless => ⟨badHead, fun isHead => ?_⟩⟩
  · rintro ⟨snapshot, found⟩
    by_cases isHead : Log.IsHead (bytes.take Log.headSize)
    · rcases Log.form_or_damagedAt isHead with form | ⟨offset, damage, damaged⟩
      · exact form
      · rw [refused (damaged.replay isHead)] at found
        cases found
    · obtain ⟨reason, failed⟩ := badHead isHead
      rw [failed] at found
      cases found
  · rcases Log.form_or_damagedAt isHead with form | ⟨offset, damage, damaged⟩
    · exact absurd form formless
    · exact ⟨offset, damage, damaged, refused (damaged.replay isHead)⟩

/-- A log with one frame, and behind it the beginning of the head of another. -/
theorem read_iff_form_tornHead :
    let frame : Bytes :=
      [17, 0, 0, 0, 165, 12, 178, 140, 1, 0, 0, 0, 1, 0, 112, 1, 0, 0, 0, 107, 1, 0, 0, 0, 49]
    let form : Log.Form := ⟨Log.head, [frame], [[⟨"p", "k", [49]⟩]], [17, 0, 0]⟩
    let bytes : Bytes := Log.head ++ (frame ++ [17, 0, 0])
    let tree := (LogStore.openIn .empty "d" .onClose).2.fill 0 bytes
    tree.read (LogStore.filePath "d") = .ok bytes ∧ form.Of bytes ∧
      (∀ other : Log.Form, other.Of bytes → other = form) ∧
      read tree "d" = .ok ⟨"d", Contents.empty.applyAll form.batches, ⟨1, 3⟩⟩ := by
  intro frame form bytes tree
  have content : tree.read (LogStore.filePath "d") = .ok bytes := rfl
  have written : Frame.encode [⟨"p", "k", [49]⟩] = .ok frame :=
    Frame.ok_of_toOption (by decide +kernel)
  have of : form.Of bytes :=
    ⟨⟨rfl, rfl, rfl⟩, Log.decodes_iff.2 (by rw [Log.Frames, List.map_singleton, written]; rfl),
      .short (by decide), rfl⟩
  obtain ⟨-, accepted, -⟩ := read_iff_form content
  exact ⟨content, of, accepted form of⟩

end LogSnapshot

end CausalTrace
