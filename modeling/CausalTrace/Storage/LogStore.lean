import CausalTrace.Storage.Log
import CausalTrace.Storage.SyncMode
import CausalTrace.Storage.StoreError

/-!
# A store in a directory

A log store owns one file of a directory.  Opening checks the log that is there and cuts off its
torn tail; a commit appends one frame to the file that was opened, whatever its name has become
since.  The store never reads back what it wrote: a snapshot replays the file that is found in the
directory.
-/

namespace CausalTrace

/-- What replay found when a log was opened or read. -/
structure Recovery where
  frames : Nat
  tornBytes : Nat
  deriving DecidableEq, Repr, Inhabited

/-- What a replay tells about recovery. -/
def Log.Replay.recovery (replay : Log.Replay) : Recovery :=
  ⟨replay.batches.length, replay.tornBytes⟩

/-- A log that is open for writing. -/
structure LogStore where
  directory : String
  /-- The number of the file that was opened. -/
  file : Nat
  sync : SyncMode
  /-- Commits since the last one that was forced to disk. -/
  unsynced : Nat
  /-- The size of the log. -/
  size : Nat
  recovery : Recovery
  deriving DecidableEq, Repr, Inhabited

namespace LogStore

/-- The name of the file. -/
def fileName : String := "trace.log"

/-- The path of the file in a directory. -/
def filePath (directory : String) : String :=
  Path.join directory fileName

/-- The content that opening leaves in a file, and what was found in it. -/
def repair (content : Bytes) : Except Log.Corruption (Bytes × Recovery) :=
  if content = [] then .ok (Log.head, ⟨0, 0⟩)
  else
    (Log.replay content).map fun replay =>
      (content.take (content.length - replay.tornBytes), replay.recovery)

/-- Damage as a failure of the store. -/
def corruption (found : Log.Corruption) : StoreError :=
  .corruption found.offset found.reason

/-- Opens the store in a directory, which is made if it is not there.  Directories and the file
stay even if what is in the file is refused. -/
def openIn (tree : FileTree) (directory : String) (sync : SyncMode) :
    Except StoreError LogStore × FileTree :=
  match tree.makeDirectories directory with
  | (.error fault, tree) => (.error (.ofFile directory fault), tree)
  | (.ok (), tree) =>
    match tree.openFile (filePath directory) with
    | (.error fault, tree) => (.error (.ofFile directory fault), tree)
    | (.ok file, tree) =>
      match repair (tree.content file) with
      | .error found => (.error (corruption found), tree)
      | .ok (kept, recovery) =>
        (.ok ⟨directory, file, sync, 0, kept.length, recovery⟩, tree.fill file kept)

/-- Puts bytes into a file from an offset on. -/
def overlay (content : Bytes) (offset : Nat) (bytes : Bytes) : Bytes :=
  content.take offset ++ (List.replicate (offset - content.length) 0 ++ (bytes
    ++ content.drop (offset + bytes.length)))

/-- Writes bytes at the end of the log. -/
def append (store : LogStore) (tree : FileTree) (bytes : Bytes) : LogStore × FileTree :=
  let forced := store.sync.forces (store.unsynced + 1)
  ({ store with
      size := store.size + bytes.length
      unsynced := if forced then 0 else store.unsynced + 1 },
    tree.fill store.file (overlay (tree.content store.file) store.size bytes))

/-- Commits a batch as one frame.  An empty batch leaves no frame. -/
def commit (store : LogStore) (tree : FileTree) (batch : Batch) :
    Except StoreError Unit × LogStore × FileTree :=
  if batch = [] then (.ok (), store, tree)
  else
    match Frame.encode batch with
    | .error refusal => (.error (.io refusal.message), store, tree)
    | .ok frame => (.ok (), store.append tree frame)

end LogStore

/-- The replayed content of a log directory. -/
structure LogSnapshot where
  directory : String
  contents : Contents
  recovery : Recovery
  deriving DecidableEq, Repr, Inhabited

namespace LogSnapshot

/-- The snapshot of a log. -/
def ofLog (directory : String) (content : Bytes) : Except Log.Corruption LogSnapshot :=
  (Log.replay content).map fun replay =>
    ⟨directory, Contents.empty.applyAll replay.batches, replay.recovery⟩

/-- Reads the log of a directory. -/
def read (tree : FileTree) (directory : String) : Except StoreError LogSnapshot :=
  let path := LogStore.filePath directory
  match tree.read path with
  | .error fault => .error (.ofFile path fault)
  | .ok content =>
    match ofLog directory content with
    | .error found => .error (LogStore.corruption found)
    | .ok snapshot => .ok snapshot

end LogSnapshot

end CausalTrace
