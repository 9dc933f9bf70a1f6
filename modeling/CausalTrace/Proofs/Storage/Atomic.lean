import CausalTrace.Proofs.Storage.Contents
import CausalTrace.Storage.UnreliableStore

/-!
# Stores that take a batch whole or not at all

An atomic store answers from contents that change by whole batches.  A commit that is acknowledged
has been applied; a commit that is reported as failed may have been applied as well, and its writer
cannot tell.  Nothing else is asked of a store here: whether a commit is refused, and when, is free.
-/

namespace CausalTrace

/-- A store whose commits apply their batch as a whole or leave everything as it was. -/
class AtomicStore (σ : Type) [Store σ] where
  /-- What a store holds at this moment. -/
  Holds : σ → Contents → Prop
  holdsArrive {store : σ} {contents : Contents} :
    Holds store contents → Holds (Store.arrive store) contents
  holdsDone {store after : σ} {contents : Contents} {batch : Batch} :
    Holds store contents → Store.commit store batch = (.done, after) →
      Holds after (contents.apply batch)
  holdsFailed {store after : σ} {contents : Contents} {batch : Batch} {failure : StoreError} :
    Holds store contents → Store.commit store batch = (.failed failure, after) →
      Holds after contents ∨ Holds after (contents.apply batch)

namespace MemoryStore

/-- A commit either applies its batch and succeeds, or fails and leaves the store alone. -/
theorem commit_cases (store : MemoryStore) (batch : Batch) :
    store.commit batch = (.error .closed, store) ∨
      ∃ after, store.commit batch = (.ok (), after) ∧
        after.contents = store.contents.apply batch := by
  unfold commit
  split
  · exact .inl rfl
  · exact .inr ⟨_, rfl, rfl⟩

/-- A store that is open takes every batch. -/
theorem commit_open {store : MemoryStore} (opened : store.closes = 0) (batch : Batch) :
    store.commit batch = (.ok (), ⟨store.contents.apply batch, store.commits + 1, 0⟩) := by
  have accepts : store.isClosed = false := by rw [isClosed, opened]; rfl
  rw [commit, accepts, ← opened]
  rfl

instance : AtomicStore MemoryStore where
  Holds store contents := store.contents = contents
  holdsArrive holds := holds
  holdsDone {store after contents batch} holds done := by
    change (let (result, store) := store.commit batch; (CommitAnswer.ofExcept result, store))
      = _ at done
    rcases commit_cases store batch with refused | ⟨taken, accepted, applied⟩
    · rw [refused] at done
      cases done
    · rw [accepted] at done
      cases done
      rw [applied, holds]
  holdsFailed {store after contents batch failure} holds failed := by
    change (let (result, store) := store.commit batch; (CommitAnswer.ofExcept result, store))
      = _ at failed
    rcases commit_cases store batch with refused | ⟨taken, accepted, applied⟩
    · rw [refused] at failed
      cases failed
      exact .inl holds
    · rw [accepted] at failed
      cases failed

end MemoryStore

namespace UnreliableStore

instance : AtomicStore UnreliableStore where
  Holds store contents := store.memory.contents = contents
  holdsArrive holds := holds
  holdsDone {store after contents batch} holds done := by
    change store.commit batch = _ at done
    simp only [commit] at done
    rcases store.memory.commit_cases batch with refused | ⟨taken, accepted, applied⟩
    · rw [refused] at done
      split at done <;> cases done
    · rw [accepted] at done
      split at done <;> cases done
      rw [applied, holds]
  holdsFailed {store after contents batch failure} holds failed := by
    change store.commit batch = _ at failed
    simp only [commit] at failed
    rcases store.memory.commit_cases batch with refused | ⟨taken, accepted, applied⟩
    · rw [refused] at failed
      split at failed <;> cases failed <;> exact .inl holds
    · rw [accepted] at failed
      split at failed <;> cases failed
      · exact .inl holds
      · refine .inr ?_
        rw [applied, holds]

end UnreliableStore

end CausalTrace
