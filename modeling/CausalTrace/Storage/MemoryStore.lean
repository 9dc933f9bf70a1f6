import CausalTrace.Storage.Batch
import CausalTrace.Storage.StoreError

/-!
# A store in memory

The reference store: a commit applies its batch to the contents at once, an empty batch is a
commit like any other, and nothing is accepted after the store has been closed.
-/

namespace CausalTrace

/-- Contents together with how often they were committed to and closed. -/
structure MemoryStore where
  contents : Contents
  commits : Nat
  closes : Nat
  deriving DecidableEq, Repr, Inhabited

namespace MemoryStore

/-- A store that was never used. -/
def new : MemoryStore := ⟨.empty, 0, 0⟩

/-- Whether the store has been closed. -/
def isClosed (store : MemoryStore) : Bool := 0 < store.closes

/-- Commits a batch. -/
def commit (store : MemoryStore) (batch : Batch) : Except StoreError Unit × MemoryStore :=
  if store.isClosed then (.error .closed, store)
  else (.ok (), { store with contents := store.contents.apply batch, commits := store.commits + 1 })

/-- Closes the store. -/
def close (store : MemoryStore) : MemoryStore := { store with closes := store.closes + 1 }

end MemoryStore

end CausalTrace
