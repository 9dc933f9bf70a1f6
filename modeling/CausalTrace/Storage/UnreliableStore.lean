import CausalTrace.Storage.Store

/-!
# Stores that fail as planned

An unreliable store keeps its batches in memory, whole or not at all, but answers each commit as
a plan says.  It may refuse a batch, take it and report a failure, or bring down its writer.
While its gate is shut every commit waits.  With such a store every history of failures that a
writer can meet is a plan.
-/

namespace CausalTrace

/-- What is planned for one commit. -/
inductive Outcome where
  | accept
  /-- The batch is not stored. -/
  | refuse (failure : StoreError)
  /-- The batch is stored, but the commit is reported as failed. -/
  | deny (failure : StoreError)
  /-- The writer does not survive the commit; the batch is not stored. -/
  | collapse
  deriving DecidableEq, Repr, Inhabited

/-- The plan that follows a list.  After its end the list starts over, or else its last outcome
stays; an empty list accepts every commit. -/
def Outcome.plan (outcomes : List Outcome) (cyclic : Bool) (turn : Nat) : Outcome :=
  let position := if cyclic then turn % outcomes.length else min turn (outcomes.length - 1)
  (outcomes[position]?).getD .accept

/-- A store in memory that answers as planned. -/
structure UnreliableStore where
  name : String
  memory : MemoryStore
  plan : Nat → Outcome
  /-- How many commits have arrived. -/
  arrivals : Nat
  /-- How many commits have been answered. -/
  answered : Nat
  /-- Whether the gate is shut. -/
  shut : Bool
  /-- What closing reports. -/
  closeFailure : Option StoreError
  deriving Inhabited

namespace UnreliableStore

/-- Opens the gate for good. -/
def openGate (store : UnreliableStore) : UnreliableStore := { store with shut := false }

/-- Answers a commit as planned. -/
def commit (store : UnreliableStore) (batch : Batch) : CommitAnswer × UnreliableStore :=
  let turn := store.answered
  let store := { store with answered := turn + 1 }
  match store.plan turn with
  | .refuse failure => (.failed failure, store)
  | .collapse => (.fatal, store)
  | .accept =>
    let (result, memory) := store.memory.commit batch
    (.ofExcept result, { store with memory := memory })
  | .deny failure =>
    match store.memory.commit batch with
    | (.ok (), memory) => (.failed failure, { store with memory := memory })
    | (.error refusal, memory) => (.failed refusal, { store with memory := memory })

instance : Store UnreliableStore where
  arrive store := { store with arrivals := store.arrivals + 1 }
  holdsBack store := store.shut
  commit := commit
  close store := (store.closeFailure, { store with memory := store.memory.close })

end UnreliableStore

end CausalTrace
