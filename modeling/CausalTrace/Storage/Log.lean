import CausalTrace.Storage.Frame

/-!
# Logs

A log is a head of eight bytes and then frames.  Reading it back replays the frames in order.
A log whose writer was interrupted ends in a torn tail: the beginning of a frame, or a damaged
frame that claims to end exactly where the log ends.  A torn tail is left out.  Damage anywhere
else is reported with the place where the damaged frame starts, because frames after it would
be lost.
-/

namespace CausalTrace.Log

/-- The four bytes that a log starts with. -/
def magic : Bytes := [0x42, 0x54, 0x52, 0x4C]

/-- The version of the format. -/
def version : Nat := 1

/-- The size of the head. -/
def headSize : Nat := 8

/-- The head: magic, version, two reserved bytes. -/
def head : Bytes :=
  magic ++ Frame.number 2 version ++ [0, 0]

/-- Why bytes do not start with the head of a log. -/
inductive HeadFault where
  | tooShort (length : Nat)
  | badMagic
  | unsupportedVersion (version : Nat)
  deriving DecidableEq, Repr, Inhabited

/-- The wording of a bad head. -/
def HeadFault.message : HeadFault → String
  | tooShort length => "header too short: " ++ Decimal.render length ++ " bytes"
  | badMagic => "bad magic"
  | unsupportedVersion version => "unsupported format version " ++ Decimal.render version

/-- Checks the head; the reserved bytes are free. -/
def checkHead (bytes : Bytes) : Except HeadFault Unit :=
  if bytes.length < headSize then .error (.tooShort bytes.length)
  else if bytes.take 4 ≠ magic then .error .badMagic
  else
    let found := Frame.value ((bytes.drop 4).take 2)
    if found ≠ version then .error (.unsupportedVersion found) else .ok ()

/-- What replay finds in a log: the batches of its frames and the size of its torn tail. -/
structure Replay where
  batches : List Batch
  tornBytes : Nat
  deriving DecidableEq, Repr, Inhabited

/-- Damage before the tail, and where the damaged part starts. -/
structure Corruption where
  offset : Nat
  reason : String
  deriving DecidableEq, Repr, Inhabited

/-- Replays the frames that start at an offset of a log; `bytes` is the log from there on. -/
def replayFrames (offset : Nat) (bytes : Bytes) : Except Corruption Replay :=
  if bytes = [] then .ok ⟨[], 0⟩
  else
    match decoded : Frame.decode bytes with
    | .ok (batch, size) =>
      have := Frame.decode_size decoded
      match replayFrames (offset + size) (bytes.drop size) with
      | .ok rest => .ok { rest with batches := batch :: rest.batches }
      | .error corruption => .error corruption
    | .error (.incomplete _ _) => .ok ⟨[], bytes.length⟩
    | .error (.corrupt damage) =>
      if Frame.claimedSize? bytes = some bytes.length then .ok ⟨[], bytes.length⟩
      else .error ⟨offset, damage.message⟩
termination_by bytes.length
decreasing_by
  simp only [Frame.headSize] at this
  simp
  omega

/-- Replays a whole log. -/
def replay (bytes : Bytes) : Except Corruption Replay :=
  match checkHead bytes with
  | .error fault => .error ⟨0, fault.message⟩
  | .ok () => replayFrames headSize (bytes.drop headSize)

end CausalTrace.Log
