import CausalTrace.Proofs.Storage.Atomic
import CausalTrace.Proofs.Storage.Logs
import CausalTrace.Recording

/-!
# What a store still holds when its writer is gone

A writer may not survive a commit, and at its end it closes the store.  A lasting store is atomic in
either case: the batch of the last commit was applied or it was not, and closing takes nothing away.
Every store that a writer can be given is one.
-/

namespace CausalTrace

/-- An atomic store that is atomic also in the commit that its writer does not survive, and that
keeps what it holds when it is closed. -/
class LastingStore (σ : Type) [Store σ] [AtomicStore σ] : Prop where
  holdsFatal {store after : σ} {contents : Contents} {batch : Batch} :
    AtomicStore.Holds store contents → Store.commit store batch = (.fatal, after) →
      AtomicStore.Holds after contents ∨ AtomicStore.Holds after (contents.apply batch)
  holdsClose {store : σ} {contents : Contents} :
    AtomicStore.Holds store contents → AtomicStore.Holds (Store.close store).2 contents

/-- A commit applies its batch, or it is not acknowledged and leaves what was held. -/
theorem LastingStore.commit_cases {σ : Type} [Store σ] [AtomicStore σ] [LastingStore σ]
    {store after : σ} {contents : Contents} {batch : Batch} {answer : CommitAnswer}
    (holds : AtomicStore.Holds store contents)
    (committed : Store.commit store batch = (answer, after)) :
    AtomicStore.Holds after (contents.apply batch) ∨
      answer ≠ .done ∧ AtomicStore.Holds after contents := by
  cases answer with
  | done => exact .inl (AtomicStore.holdsDone holds committed)
  | failed failure =>
    exact (AtomicStore.holdsFailed holds committed).symm.imp_right fun kept => ⟨nofun, kept⟩
  | fatal => exact (holdsFatal holds committed).symm.imp_right fun kept => ⟨nofun, kept⟩

/-- A commit with a result is never fatal. -/
theorem CommitAnswer.ofExcept_ne_fatal (result : Except StoreError Unit) :
    ofExcept result ≠ fatal := by
  cases result <;> nofun

instance : LastingStore MemoryStore where
  holdsFatal _ committed :=
    absurd (congrArg Prod.fst committed) (CommitAnswer.ofExcept_ne_fatal _)
  holdsClose holds := holds

instance : LastingStore UnreliableStore where
  holdsFatal {store after contents batch} holds committed := by
    change store.commit batch = _ at committed
    simp only [UnreliableStore.commit] at committed
    rcases store.memory.commit_cases batch with refused | ⟨taken, accepted, applied⟩
    · rw [refused] at committed
      split at committed <;> cases committed
      exact .inl holds
    · rw [accepted] at committed
      split at committed <;> cases committed
      exact .inl holds
  holdsClose holds := holds

/-! ## Logs -/

namespace LogStore

/-- A log store whose log holds batches that come to some contents. -/
def Holds (disk : LogStore × FileTree) (contents : Contents) : Prop :=
  ∃ batches frames, Keeps disk batches frames ∧ contents = Contents.empty.applyAll batches

/-- A commit is refused and changes nothing, or applies its batch. -/
theorem Holds.commit {disk : LogStore × FileTree} {contents : Contents}
    (holds : Holds disk contents) (batch : Batch) :
    (∃ failure, disk.1.commit disk.2 batch = (.error failure, disk)) ∨
      ∃ after, disk.1.commit disk.2 batch = (.ok (), after) ∧
        Holds after (contents.apply batch) := by
  obtain ⟨batches, frames, keeps, rfl⟩ := holds
  by_cases empty : batch = []
  · subst empty
    exact .inr ⟨disk, rfl, batches, frames, keeps, Contents.apply_nil _⟩
  · rcases commit_cases disk.1 disk.2 empty with refused | ⟨frame, -, appended⟩
    · exact .inl refused
    · obtain ⟨last, further⟩ := keeps.commit empty appended
      refine .inr ⟨_, appended, _, _, further, ?_⟩
      rw [Contents.applyAll, Contents.applyAll, List.foldl_append]
      rfl

instance : AtomicStore (LogStore × FileTree) where
  Holds := Holds
  holdsArrive holds := holds
  holdsDone {disk after contents batch} holds done := by
    change (CommitAnswer.ofExcept (disk.1.commit disk.2 batch).1, (disk.1.commit disk.2 batch).2)
      = _ at done
    rcases holds.commit batch with ⟨failure, refused⟩ | ⟨taken, accepted, applied⟩
    · rw [refused] at done
      cases done
    · rw [accepted] at done
      cases done
      exact applied
  holdsFailed {disk after contents batch failure} holds failed := by
    change (CommitAnswer.ofExcept (disk.1.commit disk.2 batch).1, (disk.1.commit disk.2 batch).2)
      = _ at failed
    rcases holds.commit batch with ⟨other, refused⟩ | ⟨taken, accepted, applied⟩
    · rw [refused] at failed
      cases failed
      exact .inl holds
    · rw [accepted] at failed
      cases failed

instance : LastingStore (LogStore × FileTree) where
  holdsFatal _ committed :=
    absurd (congrArg Prod.fst committed) (CommitAnswer.ofExcept_ne_fatal _)
  holdsClose holds := holds

end LogStore

/-! ## Stores of any kind -/

namespace OpenStore

/-- What an open store holds is what the store of its kind holds. -/
def Holds : OpenStore × FileTree → Contents → Prop
  | (log store, tree) => AtomicStore.Holds (store, tree)
  | (memory store, _) => AtomicStore.Holds store
  | (unreliable store, _) => AtomicStore.Holds store

/-- A commit to an open store is one to the store of its kind, so either is as atomic. -/
theorem Holds.commit {disk after : OpenStore × FileTree} {contents : Contents} {batch : Batch}
    {answer : CommitAnswer} (holds : Holds disk contents)
    (committed : Store.commit disk batch = (answer, after)) :
    Holds after (contents.apply batch) ∨ answer ≠ .done ∧ Holds after contents := by
  obtain ⟨store, tree⟩ := disk
  cases store <;> cases committed <;> exact LastingStore.commit_cases holds rfl

instance : AtomicStore (OpenStore × FileTree) where
  Holds := Holds
  holdsArrive {disk contents} holds := by
    obtain ⟨store, tree⟩ := disk
    cases store <;> exact holds
  holdsDone holds done := (Holds.commit holds done).resolve_right fun other => other.1 rfl
  holdsFailed holds failed := (Holds.commit holds failed).symm.imp_left And.right

instance : LastingStore (OpenStore × FileTree) where
  holdsFatal holds committed := (Holds.commit holds committed).symm.imp_left And.right
  holdsClose {disk contents} holds := by
    obtain ⟨store, tree⟩ := disk
    cases store <;> exact holds

end OpenStore

end CausalTrace
