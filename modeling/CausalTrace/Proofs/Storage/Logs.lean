import CausalTrace.Proofs.Storage.Files
import CausalTrace.Proofs.Storage.Replay
import CausalTrace.Storage.LogStore

/-!
# What a log store leaves in its file

The file of a log store holds the head of a log and then the frames of the batches that were
committed, in order and nothing else.  Whoever opens the directory again, or only reads it, finds
that same file; so what becomes of a log is decided by its bytes alone.
-/

namespace CausalTrace

/-- The log of a directory, found under its path as the file of a number. -/
structure FileTree.LogAt (tree : FileTree) (directory : String) (file : Nat) : Prop where
  made : tree.HasDirectory directory
  found : tree.file (LogStore.filePath directory) = .ok file

namespace FileTree

/-- The file of a log is one of the files of the tree. -/
theorem LogAt.lt {tree : FileTree} {directory : String} {file : Nat}
    (log : tree.LogAt directory file) : file < tree.contents.length :=
  file_lt log.found

/-- A log stays where it is when files are filled. -/
theorem LogAt.fill {tree : FileTree} {directory : String} {file : Nat}
    (log : tree.LogAt directory file) (number : Nat) (content : Bytes) :
    (tree.fill number content).LogAt directory file where
  made := (Grows.fill tree number content).hasDirectory log.made
  found := (file_fill tree number content _).trans log.found

end FileTree

namespace LogStore

open FileTree

/-! ## Opening and reading -/

/-- Opening a directory with a log depends on the bytes of the log alone. -/
theorem openIn_log {tree : FileTree} {directory : String} {file : Nat}
    (log : tree.LogAt directory file) (sync : SyncMode) :
    openIn tree directory sync =
      match repair (tree.content file) with
      | .error found => (.error (corruption found), tree)
      | .ok (kept, recovery) =>
        (.ok ⟨directory, file, sync, 0, kept.length, recovery⟩, tree.fill file kept) := by
  cases repaired : repair (tree.content file) with
  | error found =>
    simp only [openIn, log.made.makeDirectories, openFile_found log.found, repaired]
  | ok found =>
    simp only [openIn, log.made.makeDirectories, openFile_found log.found, repaired]

/-- So does reading it. -/
theorem read_log {tree : FileTree} {directory : String} {file : Nat}
    (log : tree.LogAt directory file) :
    LogSnapshot.read tree directory =
      match LogSnapshot.ofLog directory (tree.content file) with
      | .error found => .error (corruption found)
      | .ok snapshot => .ok snapshot := by
  have content := read_of_file log.found
  cases found : LogSnapshot.ofLog directory (tree.content file) with
  | error damage => simp only [LogSnapshot.read, content, found]
  | ok snapshot => simp only [LogSnapshot.read, content, found]

/-- A log with nothing torn is opened without a change. -/
theorem openIn_untorn {tree : FileTree} {directory : String} {file : Nat} {batches : List Batch}
    (log : tree.LogAt directory file) (filled : tree.content file ≠ [])
    (replayed : Log.replay (tree.content file) = .ok ⟨batches, 0⟩) (sync : SyncMode) :
    openIn tree directory sync
      = (.ok ⟨directory, file, sync, 0, (tree.content file).length, ⟨batches.length, 0⟩⟩,
        tree) := by
  have whole : repair (tree.content file) = .ok (tree.content file, ⟨batches.length, 0⟩) := by
    rw [repair, if_neg filled, replayed]
    simp only [Except.map, Nat.sub_zero, List.take_length]
    rfl
  rw [openIn_log log, whole]
  simp only [fill_content]

/-- What is read of a log is what its replay finds. -/
theorem read_replayed {tree : FileTree} {directory : String} {file : Nat} {replay : Log.Replay}
    (log : tree.LogAt directory file) (replayed : Log.replay (tree.content file) = .ok replay) :
    LogSnapshot.read tree directory
      = .ok ⟨directory, Contents.empty.applyAll replay.batches, replay.recovery⟩ := by
  rw [read_log log, LogSnapshot.ofLog, replayed]
  rfl

/-- A log of whole frames is read back whole. -/
theorem read_frames {tree : FileTree} {directory : String} {batches : List Batch}
    {frames : List Bytes} (written : Log.Frames batches frames)
    (content : tree.read (filePath directory) = .ok (Log.head ++ frames.flatten)) :
    LogSnapshot.read tree directory
      = .ok ⟨directory, Contents.empty.applyAll batches, ⟨batches.length, 0⟩⟩ := by
  rw [LogSnapshot.read, content]
  dsimp only
  rw [LogSnapshot.ofLog, Log.replay_flatten written]
  rfl

/-- A store that was opened has a log in its directory, repaired. -/
theorem openIn_ok {tree after : FileTree} {directory : String} {sync : SyncMode} {store : LogStore}
    (opened : openIn tree directory sync = (.ok store, after)) :
    after.LogAt directory store.file ∧ store.directory = directory ∧
      repair (tree.content store.file) = .ok (after.content store.file, store.recovery) ∧
      store.size = (after.content store.file).length := by
  unfold openIn at opened
  split at opened
  next => cases opened
  next between madeAll =>
    split at opened
    next => cases opened
    next file found openedFile =>
      -- Neither the directories nor the file that were made along the way change any content.
      have before : found.content file = tree.content file := by
        have contents := contents_makeDirectories tree directory
        have content := content_openFile between (filePath directory) file
        rw [madeAll] at contents
        rw [openedFile] at content
        rw [content, FileTree.content, contents, FileTree.content]
      obtain ⟨there, grows⟩ := openFile_ok openedFile
      have log : found.LogAt directory file :=
        ⟨grows.hasDirectory (makeDirectories_ok madeAll), there⟩
      rw [before] at opened
      split at opened
      next => cases opened
      next kept recovery repaired =>
        cases opened
        have content : (found.fill file kept).content file = kept :=
          content_fill_self log.lt kept
        refine ⟨log.fill file kept, rfl, ?_, ?_⟩
        · rw [content, repaired]
        · rw [content]

/-! ## Committing -/

/-- A log store and its tree, with the batches that were committed and their frames. -/
structure Keeps (disk : LogStore × FileTree) (batches : List Batch) (frames : List Bytes) :
    Prop where
  written : Log.Frames batches frames
  log : disk.2.LogAt disk.1.directory disk.1.file
  content : disk.2.content disk.1.file = Log.head ++ frames.flatten
  size : disk.1.size = (disk.2.content disk.1.file).length

/-- A log that is opened where nothing was has no frames. -/
theorem keeps_openIn {tree after : FileTree} {directory : String} {sync : SyncMode}
    {store : LogStore} (opened : openIn tree directory sync = (.ok store, after))
    (fresh : tree.content store.file = []) : Keeps (store, after) [] [] := by
  obtain ⟨log, rfl, repaired, size⟩ := openIn_ok opened
  rw [fresh, repair, if_pos rfl] at repaired
  obtain ⟨content, -⟩ := Prod.mk.inj (Except.ok.inj repaired)
  exact ⟨.nil, log, content.symm, size⟩

/-- The log is read back whole. -/
theorem Keeps.read {disk : LogStore × FileTree} {batches : List Batch} {frames : List Bytes}
    (keeps : Keeps disk batches frames) :
    LogSnapshot.read disk.2 disk.1.directory
      = .ok ⟨disk.1.directory, Contents.empty.applyAll batches, ⟨batches.length, 0⟩⟩ := by
  have content := read_of_file keeps.log.found
  rw [keeps.content] at content
  exact read_frames keeps.written content

/-- Whoever opens the directory finds the log of these batches. -/
def Finds (tree : FileTree) (directory : String) (batches : List Batch) : Prop :=
  ∀ {sync store after}, openIn tree directory sync = (.ok store, after) →
    ∃ frames, Keeps (store, after) batches frames

/-- Opening a log again succeeds and leaves the tree as it is. -/
theorem Keeps.reopened {disk : LogStore × FileTree} {batches : List Batch} {frames : List Bytes}
    (keeps : Keeps disk batches frames) (sync : SyncMode) :
    openIn disk.2 disk.1.directory sync
      = (.ok ⟨disk.1.directory, disk.1.file, sync, 0, disk.1.size, ⟨batches.length, 0⟩⟩,
        disk.2) := by
  have replayed := Log.replay_flatten keeps.written
  rw [← keeps.content] at replayed
  have filled : disk.2.content disk.1.file ≠ [] := by
    rw [keeps.content]
    exact List.cons_ne_nil _ _
  rw [openIn_untorn keeps.log filled replayed, keeps.size]

/-- Whoever opens the log again finds it as it is. -/
theorem Keeps.finds {disk : LogStore × FileTree} {batches : List Batch} {frames : List Bytes}
    (keeps : Keeps disk batches frames) : Finds disk.2 disk.1.directory batches := by
  intro sync store after opened
  rw [keeps.reopened] at opened
  cases opened
  exact ⟨frames, keeps.written, keeps.log, keeps.content, keeps.size⟩

/-- The log of a directory holds these batches. -/
def Written (tree : FileTree) (directory : String) (batches : List Batch) : Prop :=
  ∃ store frames, store.directory = directory ∧ Keeps (store, tree) batches frames

/-- Whoever opens or reads a log that was written whole finds its batches. -/
theorem Written.finds {tree : FileTree} {directory : String} {batches : List Batch}
    (written : Written tree directory batches) : Finds tree directory batches := by
  obtain ⟨store, frames, rfl, keeps⟩ := written
  exact keeps.finds

/-- Bytes that are laid over the end of a content are appended. -/
theorem overlay_length (content bytes : Bytes) :
    overlay content content.length bytes = content ++ bytes := by
  rw [overlay, List.take_length, Nat.sub_self, List.replicate_zero, List.nil_append,
    List.drop_of_length_le (by omega), List.append_nil]

/-- Bytes that are laid over as many others replace them and nothing else. -/
theorem overlay_within {old new : Bytes} (width : new.length = old.length) (before : Bytes)
    (after : Bytes) :
    overlay (before ++ (old ++ after)) before.length new = before ++ (new ++ after) := by
  have inside : before.length - (before ++ (old ++ after)).length = 0 := by
    rw [List.length_append]
    omega
  rw [overlay, List.take_left, inside, List.replicate_zero, List.nil_append,
    ← List.drop_drop, List.drop_left, List.drop_left' width.symm]

/-- A commit is refused and changes nothing, or appends its frame to the file. -/
theorem commit_cases (store : LogStore) (tree : FileTree) {batch : Batch} (filled : batch ≠ []) :
    (∃ failure, store.commit tree batch = (.error failure, store, tree)) ∨
      ∃ frame, Frame.encode batch = .ok frame ∧
        store.commit tree batch = (.ok (), store.append tree frame) := by
  rw [commit, if_neg filled]
  cases Frame.encode batch with
  | error refusal => exact .inl ⟨_, rfl⟩
  | ok frame => exact .inr ⟨frame, rfl, rfl⟩

/-- A commit that fails changes nothing. -/
theorem commit_error {store : LogStore} {tree : FileTree} {batch : Batch} {failure : StoreError}
    {after : LogStore × FileTree} (refused : store.commit tree batch = (.error failure, after)) :
    after = (store, tree) := by
  by_cases empty : batch = []
  · rw [commit, if_pos empty] at refused
    cases refused
  · rcases commit_cases store tree empty with ⟨other, same⟩ | ⟨frame, _, appended⟩
    · rw [same] at refused
      cases refused
      rfl
    · rw [appended] at refused
      cases refused

/-- A commit that succeeds adds the frame of its batch. -/
theorem Keeps.commit {disk after : LogStore × FileTree} {batches : List Batch}
    {frames : List Bytes} {batch : Batch} (keeps : Keeps disk batches frames) (filled : batch ≠ [])
    (done : disk.1.commit disk.2 batch = (.ok (), after)) :
    ∃ frame, Keeps after (batches ++ [batch]) (frames ++ [frame]) := by
  rcases commit_cases disk.1 disk.2 filled with ⟨failure, refused⟩ | ⟨frame, encoded, appended⟩
  · rw [refused] at done
    cases done
  · rw [appended] at done
    cases done
    have content : (disk.1.append disk.2 frame).2.content disk.1.file
        = disk.2.content disk.1.file ++ frame := by
      rw [append, content_fill_self keeps.log.lt, keeps.size, overlay_length]
    refine ⟨frame, keeps.written.concat encoded, keeps.log.fill _ _, ?_, ?_⟩
    · change (disk.1.append disk.2 frame).2.content disk.1.file = _
      rw [content, keeps.content, List.flatten_append, List.append_assoc]
      simp
    · change disk.1.size + frame.length
        = ((disk.1.append disk.2 frame).2.content disk.1.file).length
      rw [content, List.length_append, keeps.size]

/-- A log store whose log in a directory holds batches. -/
def HoldsAll (directory : String) (disk : LogStore × FileTree) (batches : List Batch) : Prop :=
  disk.1.directory = directory ∧ ∃ frames, Keeps disk batches frames

/-- A store that was opened over an empty file holds no batch. -/
theorem holdsAll_openIn {tree after : FileTree} {directory : String} {sync : SyncMode}
    {store : LogStore} (opened : openIn tree directory sync = (.ok store, after))
    (fresh : tree.content store.file = []) : HoldsAll directory (store, after) [] :=
  ⟨(openIn_ok opened).2.1, [], keeps_openIn opened fresh⟩

/-- A reader finds the contents of all batches, and nothing torn. -/
theorem HoldsAll.read {directory : String} {disk : LogStore × FileTree} {batches : List Batch}
    (holds : HoldsAll directory disk batches) :
    LogSnapshot.read disk.2 directory
      = .ok ⟨directory, Contents.empty.applyAll batches, ⟨batches.length, 0⟩⟩ := by
  obtain ⟨rfl, frames, keeps⟩ := holds
  exact keeps.read

/-- A batch that leaves a frame is taken. -/
theorem HoldsAll.commit {directory : String} {disk : LogStore × FileTree} {batches : List Batch}
    {batch : Batch} {frame : Bytes} (holds : HoldsAll directory disk batches)
    (filled : batch ≠ []) (encoded : Frame.encode batch = .ok frame) :
    disk.1.commit disk.2 batch = (.ok (), disk.1.append disk.2 frame) ∧
      HoldsAll directory (disk.1.append disk.2 frame) (batches ++ [batch]) := by
  obtain ⟨there, frames, keeps⟩ := holds
  have committed : disk.1.commit disk.2 batch = (.ok (), disk.1.append disk.2 frame) := by
    rw [LogStore.commit, if_neg filled, encoded]
  obtain ⟨last, further⟩ := keeps.commit filled committed
  exact ⟨committed, there, _, further⟩

/-- Batches that were committed with success, none of them empty. -/
inductive Commits (start : LogStore × FileTree) : List Batch → LogStore × FileTree → Prop where
  | opened : Commits start [] start
  | commit {batches disk batch after} (prior : Commits start batches disk) (filled : batch ≠ [])
      (done : disk.1.commit disk.2 batch = (.ok (), after)) :
      Commits start (batches ++ [batch]) after

/-- A store goes on keeping what is committed to it. -/
theorem Commits.keeps {start disk : LogStore × FileTree} {batches : List Batch}
    (commits : Commits start batches disk) (opened : Keeps start [] []) :
    ∃ frames, Keeps disk batches frames := by
  induction commits with
  | opened => exact ⟨[], opened⟩
  | commit prior filled done ih =>
    obtain ⟨frames, keeps⟩ := ih
    obtain ⟨frame, further⟩ := keeps.commit filled done
    exact ⟨frames ++ [frame], further⟩

/-- A store stays with the directory and the file that it opened. -/
theorem commit_same {store : LogStore} {tree : FileTree} {batch : Batch}
    {result : Except StoreError Unit} {after : LogStore × FileTree}
    (committed : store.commit tree batch = (result, after)) :
    after.1.directory = store.directory ∧ after.1.file = store.file := by
  unfold commit at committed
  split at committed
  · cases committed
    exact ⟨rfl, rfl⟩
  · split at committed <;> cases committed <;> exact ⟨rfl, rfl⟩

/-- Commits change neither the directory of a store nor the file of its log. -/
theorem Commits.same {start disk : LogStore × FileTree} {batches : List Batch}
    (commits : Commits start batches disk) :
    disk.1.directory = start.1.directory ∧ disk.1.file = start.1.file := by
  induction commits with
  | opened => exact ⟨rfl, rfl⟩
  | commit prior filled done ih =>
    obtain ⟨directory, file⟩ := commit_same done
    exact ⟨directory.trans ih.1, file.trans ih.2⟩

end LogStore

end CausalTrace
