import CausalTrace.Storage.LogStore
import CausalTrace.Storage.MemoryStore

/-!
# What a writer asks of a store

A writer commits batches and at the end closes the store.  A commit is answered in one of three
ways, and the answer is all the writer learns: a store may have taken a batch and still report a
failure.  A commit may also have to wait until the store lets it through.
-/

namespace CausalTrace

/-- How a commit is answered. -/
inductive CommitAnswer where
  | done
  | failed (failure : StoreError)
  /-- The caller does not survive the commit. -/
  | fatal
  deriving DecidableEq, Repr, Inhabited

/-- The answer of a commit that either succeeds or fails. -/
def CommitAnswer.ofExcept : Except StoreError Unit → CommitAnswer
  | .ok () => done
  | .error failure => failed failure

/-- A store as its writer sees it. -/
class Store (σ : Type) where
  /-- A commit arrives at the store. -/
  arrive : σ → σ
  /-- Whether a commit that has arrived has to wait. -/
  holdsBack : σ → Bool
  /-- A commit that does not have to wait. -/
  commit : σ → Batch → CommitAnswer × σ
  /-- The end of the store, with the failure it reports, if any. -/
  close : σ → Option StoreError × σ

instance : Store MemoryStore where
  arrive store := store
  holdsBack _ := false
  commit store batch :=
    let (result, store) := store.commit batch
    (.ofExcept result, store)
  close store := (none, store.close)

instance : Store (LogStore × FileTree) where
  arrive disk := disk
  holdsBack _ := false
  commit disk batch :=
    let (result, disk) := disk.1.commit disk.2 batch
    (.ofExcept result, disk)
  close disk := (none, disk)

end CausalTrace
