import CausalTrace.Proofs.Storage.Atomic
import CausalTrace.Writer

/-!
# Runs of a writer

A run is the calls of `Writer.persist` that one writer makes on one store, one after the other, and
how each was settled.  A writer that does not survive a commit makes no further call, so `lost`
settles no call of a run.

Over an atomic store a call ends in one of two ways: the batch of its event has been applied, or the
store is as before and the event is let go.  That it may have been applied several times over makes
no difference.
-/

namespace CausalTrace

namespace Writer

variable {σ : Type} [Store σ]

/-- The calls that a new writer has made so far, and what they left of the writer and its store. -/
inductive Runs (attempts : Nat) (start : σ) :
    List (Event × Settlement) → Writer → σ → Prop where
  | new : Runs attempts start [] (.new attempts) start
  | persist {past writer store event settlement after later}
      (prior : Runs attempts start past writer store) (survived : settlement ≠ .lost)
      (written : writer.persist store event = (settlement, after, later)) :
      Runs attempts start (past ++ [(event, settlement)]) after later

/-- A commit that is acknowledged at once stores the event. -/
theorem persist_done {writer : Writer} {store after : σ} {event : Event}
    (committed : Store.commit (Store.arrive store) (writer.batch event) = (.done, after)) :
    writer.persist store event = (.stored, writer.acknowledged event, after) := by
  have tried : tryCommit (writer.batch event) (writer.attempts - 1) store = (.stored, after) := by
    cases writer.attempts - 1 <;> rw [tryCommit, committed]
  rw [persist, tried]
  rfl

/-- A call settles its event and leaves the writer that such an event leaves. -/
theorem persist_eq {writer after : Writer} {store later : σ} {event : Event}
    {settlement : Settlement}
    (written : writer.persist store event = (settlement, after, later)) :
    tryCommit (writer.batch event) (writer.attempts - 1) store = (settlement, later) ∧
      after = writer.settled event settlement := by
  unfold persist at written
  cases tried : tryCommit (writer.batch event) (writer.attempts - 1) store with
  | mk found end_ =>
    rw [tried] at written
    cases written
    exact ⟨rfl, rfl⟩

/-- A number is used up whether or not its record was stored; only a writer that
broke down keeps it. -/
theorem next_settled {writer : Writer} {event : Event} {settlement : Settlement}
    (survived : settlement ≠ .lost) : (writer.settled event settlement).next = writer.next + 1 := by
  cases settlement with
  | stored => rfl
  | abandoned failure => rfl
  | lost => exact absurd rfl survived

/-- Every call consumes one number, whatever became of its event, until the numbers run out. -/
theorem Runs.toNat_next {attempts : Nat} {start store : σ} {past : List (Event × Settlement)}
    {writer : Writer} (run : Runs attempts start past writer store)
    (numbered : past.length + 1 < 2 ^ 64) : writer.next.toNat = past.length + 1 := by
  induction run with
  | new => rfl
  | @persist past writer store event settlement after later prior survived written ih =>
    rw [List.length_append, List.length_singleton] at numbered ⊢
    have before := ih (by omega)
    rw [(persist_eq written).2, next_settled survived, UInt64.toNat_add, before]
    exact Nat.mod_eq_of_lt numbered

section Atomic

variable [AtomicStore σ]

open AtomicStore

/-- A store that a batch is being committed to: attempts that failed may have applied it. -/
def Attempted (store : σ) (contents : Contents) (batch : Batch) : Prop :=
  Holds store contents ∨ Holds store (contents.apply batch)

/-- Where an attempt is acknowledged the store holds the batch, even if an earlier one
had applied it. -/
theorem Attempted.done {store taken : σ} {contents : Contents} {batch : Batch}
    (attempted : Attempted store contents batch)
    (committed : Store.commit (Store.arrive store) batch = (.done, taken)) :
    Holds taken (contents.apply batch) := by
  rcases attempted with before | applied
  · exact holdsDone (holdsArrive before) committed
  · rw [← Contents.apply_apply_self contents batch]
    exact holdsDone (holdsArrive applied) committed

/-- Where an attempt fails the batch was applied or was not, as after the attempts before. -/
theorem Attempted.failed {store taken : σ} {contents : Contents} {batch : Batch}
    {failure : StoreError} (attempted : Attempted store contents batch)
    (committed : Store.commit (Store.arrive store) batch = (.failed failure, taken)) :
    Attempted taken contents batch := by
  rcases attempted with before | applied
  · exact holdsFailed (holdsArrive before) committed
  · rcases holdsFailed (holdsArrive applied) committed with kept | again
    · exact .inr kept
    · rw [Contents.apply_apply_self] at again
      exact .inr again

/-- What the attempts for a batch leave: it was applied, or nothing was and the event is let go. -/
theorem Attempted.tryCommit {store after : σ} {contents : Contents} {batch : Batch} {left : Nat}
    {settlement : Settlement} (attempted : Attempted store contents batch)
    (survived : settlement ≠ .lost)
    (tried : tryCommit batch left store = (settlement, after)) :
    Holds after (contents.apply batch) ∨
      (∃ failure, settlement = .abandoned failure) ∧ Holds after contents := by
  fun_induction Writer.tryCommit batch left store with
  | case1 left store taken committed =>
    cases tried
    exact .inl (attempted.done committed)
  | case2 left store taken committed =>
    cases tried
    exact absurd rfl survived
  | case3 store failure taken committed =>
    cases tried
    exact (attempted.failed committed).elim (fun kept => .inr ⟨⟨failure, rfl⟩, kept⟩) .inl
  | case4 store failure taken committed left ih => exact ih (attempted.failed committed) tried

/-- One call on an atomic store applies the batch of its event, or lets the event go. -/
theorem persist_holds {writer after : Writer} {store later : σ} {contents : Contents}
    {event : Event} {settlement : Settlement} (holds : Holds store contents)
    (survived : settlement ≠ .lost)
    (written : writer.persist store event = (settlement, after, later)) :
    (Holds later (contents.apply (writer.batch event)) ∧
        (after = writer.acknowledged event ∨ after = writer.passed)) ∨
      (Holds later contents ∧ after = writer.passed) := by
  obtain ⟨tried, rfl⟩ := persist_eq written
  rcases Attempted.tryCommit (.inl holds) survived tried with applied | ⟨⟨failure, rfl⟩, kept⟩
  · refine .inl ⟨applied, ?_⟩
    cases settlement with
    | stored => exact .inl rfl
    | abandoned failure => exact .inr rfl
    | lost => exact absurd rfl survived
  · exact .inr ⟨kept, rfl⟩

end Atomic

end Writer

end CausalTrace
