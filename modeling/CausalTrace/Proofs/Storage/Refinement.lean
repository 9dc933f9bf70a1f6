import CausalTrace.Proofs.Storage.Atomic
import CausalTrace.Proofs.Storage.Logs
import CausalTrace.Storage.Store

/-!
# A log store stands for a store in memory

A log store keeps frames in a file and never looks at them again, a store in memory keeps the
stored values.  Whatever is committed and put, and however often the log is closed and opened again
in between, both give the same answers once the store in memory was given the batches that the log
took.  A batch is taken if it has a frame; what is refused leaves no trace.
-/

namespace CausalTrace

namespace MemoryStore

/-- Commits batches in order. -/
def commitAll (store : MemoryStore) (batches : List Batch) : MemoryStore :=
  batches.foldl (fun store batch => (store.commit batch).2) store

/-- A store in memory that is open takes every batch. -/
theorem commitAll_open {store : MemoryStore} (opened : store.closes = 0) (batches : List Batch) :
    store.commitAll batches
      = ⟨store.contents.applyAll batches, store.commits + batches.length, 0⟩ := by
  induction batches generalizing store with
  | nil => rw [← opened]; rfl
  | cons batch rest ih =>
    have first : store.commitAll (batch :: rest)
        = commitAll ⟨store.contents.apply batch, store.commits + 1, 0⟩ rest := by
      rw [commitAll, List.foldl_cons, commit_open opened]
      rfl
    rw [first, ih rfl, List.length_cons, Nat.add_assoc, Nat.add_comm 1]
    rfl

end MemoryStore

/-- The batches that leave a frame. -/
def Batch.filled (batches : List Batch) : List Batch :=
  batches.filter fun batch => !batch.isEmpty

/-- Batches without a put change nothing. -/
theorem Contents.applyAll_filled (contents : Contents) (batches : List Batch) :
    contents.applyAll (Batch.filled batches) = contents.applyAll batches := by
  rw [applyAll_eq, applyAll_eq, Batch.filled, List.flatten_filter_not_isEmpty]

namespace LogStore

/-! ## A log store in use -/

/-- What is done with a log store. -/
inductive Operation where
  | commit (batch : Batch)
  | put (partition key : String) (value : Bytes)
  /-- The store is closed, and its directory is opened again. -/
  | reopen (sync : SyncMode)

/-- The batch that an operation commits. -/
def Operation.batch? : Operation → Option Batch
  | commit batch => some batch
  | put partition key value => some [⟨partition, key, value⟩]
  | reopen _ => none

/-- A log store in the course of its use, with the batches that it took, in order. -/
structure Course where
  store : LogStore
  tree : FileTree
  taken : List Batch

namespace Course

/-- A batch is taken if its commit succeeds. -/
def commit (course : Course) (batch : Batch) : Except StoreError Unit × Course :=
  match course.store.commit course.tree batch with
  | (.ok (), store, tree) => (.ok (), ⟨store, tree, course.taken ++ [batch]⟩)
  | (.error failure, store, tree) => (.error failure, ⟨store, tree, course.taken⟩)

/-- Closes the store and opens its directory. -/
def reopen (course : Course) (sync : SyncMode) : Except StoreError Unit × Course :=
  let (store, tree) := (Store.close (course.store, course.tree)).2
  match openIn tree store.directory sync with
  | (.ok store, tree) => (.ok (), ⟨store, tree, course.taken⟩)
  | (.error failure, tree) => (.error failure, ⟨store, tree, course.taken⟩)

/-- Does one operation.  A put is committed as a batch of its own. -/
def perform (course : Course) : Operation → Except StoreError Unit × Course
  | .commit batch => course.commit batch
  | .put partition key value => course.commit [⟨partition, key, value⟩]
  | .reopen sync => course.reopen sync

/-- Where operations in order lead to, each of them done whatever became of those before. -/
def after (course : Course) (operations : List Operation) : Course :=
  operations.foldl (fun course operation => (course.perform operation).2) course

/-- Operations that commit a batch do so in one way. -/
theorem perform_of_batch? {course : Course} {operation : Operation} {batch : Batch}
    (commits : operation.batch? = some batch) : course.perform operation = course.commit batch := by
  cases operation <;> cases commits <;> rfl

/-- The log of a directory holds the batches that were taken and leave a frame. -/
def Holds (directory : String) (course : Course) : Prop :=
  HoldsAll directory (course.store, course.tree) (Batch.filled course.taken)

variable {directory : String} {course : Course}

/-! ## One operation -/

/-- A commit depends on nothing but whether the batch has a frame. -/
theorem Holds.commit (holds : course.Holds directory) (batch : Batch) :
    (∃ refusal, Frame.encode batch = .error refusal ∧
        course.commit batch = (.error (.io refusal.message), course)) ∨
      ∃ frame after, Frame.encode batch = .ok frame ∧ course.commit batch = (.ok (), after) ∧
        after.taken = course.taken ++ [batch] ∧ after.Holds directory := by
  by_cases empty : batch = []
  · subst empty
    obtain ⟨frame, encoded⟩ := Frame.encode_nil
    have same : Batch.filled (course.taken ++ [[]]) = Batch.filled course.taken := by
      simp [Batch.filled]
    refine .inr ⟨frame, ⟨course.store, course.tree, course.taken ++ [[]]⟩, encoded, rfl, rfl, ?_⟩
    rw [Holds, same]
    exact holds
  · cases encoded : Frame.encode batch with
    | error refusal =>
      refine .inl ⟨refusal, rfl, ?_⟩
      rw [Course.commit, LogStore.commit, if_neg empty, encoded]
    | ok frame =>
      obtain ⟨committed, further⟩ := HoldsAll.commit holds empty encoded
      have longer : Batch.filled (course.taken ++ [batch])
          = Batch.filled course.taken ++ [batch] := by
        simp [Batch.filled, empty]
      refine .inr ⟨frame, ⟨_, _, _⟩, rfl, by rw [Course.commit, committed], rfl, ?_⟩
      rw [Holds, longer]
      exact further

/-- Opening the log again changes neither the tree nor what was taken, and finds every frame. -/
theorem Holds.reopen (holds : course.Holds directory) (sync : SyncMode) :
    ∃ store, course.reopen sync = (.ok (), { course with store := store }) ∧
      store.recovery = ⟨(Batch.filled course.taken).length, 0⟩ ∧
      Holds directory { course with store := store } := by
  obtain ⟨rfl, frames, keeps⟩ := holds
  refine ⟨⟨course.store.directory, course.store.file, sync, 0, course.store.size,
    ⟨(Batch.filled course.taken).length, 0⟩⟩, ?_, rfl, rfl, frames, keeps.written, keeps.log,
    keeps.content, keeps.size⟩
  show (match openIn course.tree course.store.directory sync with
    | (.ok store, tree) => _
    | (.error failure, tree) => _) = _
  rw [keeps.reopened sync]

/-- What an operation can do: it is refused for want of a frame and changes nothing, or it is done
and its batch, if it has one, is taken. -/
theorem Holds.perform_cases (holds : course.Holds directory) (operation : Operation) :
    (∃ batch refusal, operation.batch? = some batch ∧ Frame.encode batch = .error refusal ∧
        course.perform operation = (.error (.io refusal.message), course)) ∨
      ∃ after, course.perform operation = (.ok (), after) ∧ after.Holds directory ∧
        after.taken = course.taken ++ operation.batch?.toList ∧
        ∀ batch ∈ operation.batch?, ∃ frame, Frame.encode batch = .ok frame := by
  cases commits : operation.batch? with
  | none =>
    cases operation with
    | reopen sync =>
      obtain ⟨store, done, -, further⟩ := holds.reopen sync
      exact .inr ⟨_, done, further, (List.append_nil _).symm, nofun⟩
    | _ => cases commits
  | some batch =>
    rw [perform_of_batch? commits]
    rcases holds.commit batch with
      ⟨refusal, refused, same⟩ | ⟨frame, after, encoded, done, taken, further⟩
    · exact .inl ⟨batch, refusal, rfl, refused, same⟩
    · refine .inr ⟨after, done, further, taken, fun other here => ?_⟩
      cases here
      exact ⟨frame, encoded⟩

/-- Every operation keeps what a course holds, also the ones that fail. -/
theorem Holds.perform (holds : course.Holds directory) (operation : Operation) :
    (course.perform operation).2.Holds directory := by
  rcases holds.perform_cases operation with ⟨_, _, _, _, same⟩ | ⟨_, done, further, _⟩
  · rw [same]
    exact holds
  · rw [done]
    exact further

/-- How an operation ends. -/
structure Answers (course : Course) (operation : Operation) : Prop where
  /-- It fails exactly if it commits a batch that has no frame. -/
  fails_iff : ∀ failure, (course.perform operation).1 = .error failure ↔
    ∃ batch refusal, operation.batch? = some batch ∧ Frame.encode batch = .error refusal ∧
      failure = .io refusal.message
  /-- What fails changes nothing. -/
  unchanged : ∀ failure, (course.perform operation).1 = .error failure →
    (course.perform operation).2 = course

/-- Every operation is answered as the store in memory answers it. -/
theorem Holds.answers (holds : course.Holds directory) (operation : Operation) :
    course.Answers operation := by
  rcases holds.perform_cases operation with
    ⟨batch, refusal, commits, refused, same⟩ | ⟨after, done, _, _, encodes⟩
  · refine ⟨fun failure => ?_, fun failure _ => by rw [same]⟩
    rw [same]
    constructor
    · intro failed
      cases failed
      exact ⟨batch, refusal, commits, refused, rfl⟩
    · rintro ⟨other, why, here, unframed, rfl⟩
      cases commits.symm.trans here
      cases refused.symm.trans unframed
      rfl
  · refine ⟨fun failure => ?_, fun failure failed => ?_⟩
    · rw [done]
      refine ⟨nofun, fun ⟨other, why, here, unframed, _⟩ => ?_⟩
      obtain ⟨frame, encoded⟩ := encodes other here
      cases encoded.symm.trans unframed
    · rw [done] at failed
      cases failed

/-! ## Operations in order -/

/-- Any number of operations keep what a course holds. -/
theorem Holds.after (holds : course.Holds directory) (operations : List Operation) :
    (course.after operations).Holds directory := by
  induction operations generalizing course with
  | nil => exact holds
  | cons operation rest ih => exact ih (holds.perform operation)

/-- The batches of operations that have frames. -/
def framed (operations : List Operation) : List Batch :=
  (operations.filterMap Operation.batch?).filter fun batch => (Frame.encode batch).toOption.isSome

/-- An operation adds its batch to what was taken if and only if it can be framed. -/
theorem Holds.taken_perform (holds : course.Holds directory) (operation : Operation) :
    (course.perform operation).2.taken = course.taken ++ framed [operation] := by
  have batches : [operation].filterMap Operation.batch? = operation.batch?.toList := by
    rw [List.filterMap_cons]
    cases operation.batch? <;> rfl
  rw [framed, batches]
  rcases holds.perform_cases operation with
    ⟨batch, refusal, commits, refused, same⟩ | ⟨after, done, _, taken, encodes⟩
  · rw [same, commits]
    simp [refused, Except.toOption]
  · rw [done, taken, List.filter_eq_self.2 fun batch here => ?_]
    obtain ⟨frame, encoded⟩ := encodes batch (Option.mem_toList.1 here)
    rw [encoded]
    rfl

/-- What was taken is what has frames, in order. -/
theorem Holds.taken_after (holds : course.Holds directory) (operations : List Operation) :
    (course.after operations).taken = course.taken ++ framed operations := by
  induction operations generalizing course with
  | nil => exact (List.append_nil _).symm
  | cons operation rest ih =>
    have first : framed (operation :: rest) = framed [operation] ++ framed rest := by
      rw [framed, ← List.singleton_append, List.filterMap_append, List.filter_append]
      rfl
    rw [first, ← List.append_assoc, ← holds.taken_perform operation]
    exact ih (holds.perform operation)

/-! ## The store in memory -/

/-- A log store and a store in memory that was given the batches it took. -/
structure Agrees (directory : String) (course : Course) (memory : MemoryStore) : Prop where
  /-- The store in memory took them all. -/
  commits : memory.commits = course.taken.length
  /-- Both have the same keys, each once, and under each of them the last put to it. -/
  read : ∃ snapshot, LogSnapshot.read course.tree directory = .ok snapshot ∧
    snapshot.recovery = ⟨(Batch.filled course.taken).length, 0⟩ ∧
    ∀ partition, (snapshot.contents.keys partition).Nodup ∧
      (memory.contents.keys partition).Nodup ∧
      ∀ key, (key ∈ snapshot.contents.keys partition ↔ key ∈ memory.contents.keys partition) ∧
        snapshot.contents.get? partition key = memory.contents.get? partition key ∧
        snapshot.contents.get? partition key
          = Contents.lastPut? course.taken.flatten partition key
  /-- The store knows the size of its file. -/
  size : ∃ content, course.tree.read (filePath directory) = .ok content ∧
    course.store.size = content.length

/-- The log stands for the store in memory that took the same batches. -/
theorem Holds.agrees (holds : course.Holds directory) :
    course.Agrees directory (MemoryStore.new.commitAll course.taken) := by
  obtain ⟨rfl, frames, keeps⟩ := holds
  have contents : (MemoryStore.new.commitAll course.taken).contents
      = Contents.empty.apply course.taken.flatten := by
    rw [MemoryStore.commitAll_open rfl, ← Contents.applyAll_eq]
    rfl
  have found := keeps.read
  rw [Contents.applyAll_filled, Contents.applyAll_eq, ← contents] at found
  have nothing : ∀ partition, (Contents.empty.keys partition).Nodup := fun _ => List.nodup_nil
  have once := Contents.nodup_keys_apply nothing course.taken.flatten
  rw [← contents] at once
  refine ⟨?_, ⟨_, found, rfl, fun partition => ⟨once partition, once partition, fun key =>
    ⟨Iff.rfl, rfl, ?_⟩⟩⟩, _, FileTree.read_of_file keeps.log.found, keeps.size⟩
  · rw [MemoryStore.commitAll_open rfl]
    exact Nat.zero_add _
  · rw [contents, Contents.get?_apply]
    exact Option.or_none

/-- Whatever is done with a log store whose log was empty, it agrees with a store in memory that
was given the batches it took.  It takes exactly those that have a frame. -/
theorem refines {tree opened : FileTree} {directory : String} {sync : SyncMode} {store : LogStore}
    (started : openIn tree directory sync = (.ok store, opened))
    (fresh : tree.content store.file = []) (operations : List Operation) :
    let course := (⟨store, opened, []⟩ : Course).after operations
    course.Agrees directory (MemoryStore.new.commitAll course.taken) ∧
      course.taken = framed operations ∧ ∀ operation, course.Answers operation := by
  have first : (⟨store, opened, []⟩ : Course).Holds directory :=
    holdsAll_openIn started fresh
  have holds := first.after operations
  exact ⟨holds.agrees, first.taken_after operations, holds.answers⟩

/-- Two puts to one key, with a reopening and an empty batch between them. -/
theorem refines_putTwice :
    let store : LogStore := ⟨"d", 0, .onClose, 0, 8, ⟨0, 0⟩⟩
    let opened := (openIn .empty "d" .onClose).2
    let operations : List Operation :=
      [.put "p" "k" [1], .reopen .strict, .commit [], .put "p" "k" [2]]
    let course := (⟨store, opened, []⟩ : Course).after operations
    openIn .empty "d" .onClose = (.ok store, opened) ∧ FileTree.empty.content store.file = [] ∧
      course.taken.length = 3 ∧
      course.Agrees "d" (MemoryStore.new.commitAll course.taken) ∧
      course.taken = framed operations ∧ ∀ operation, course.Answers operation := by
  intro store opened operations course
  have started : openIn .empty "d" .onClose = (.ok store, opened) := rfl
  have fresh : FileTree.empty.content store.file = [] := rfl
  exact ⟨started, fresh, by decide +kernel, refines started fresh operations⟩

end Course

end LogStore

end CausalTrace
