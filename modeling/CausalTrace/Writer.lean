import CausalTrace.Channel
import CausalTrace.Index
import CausalTrace.Stats
import CausalTrace.Inspect
import CausalTrace.Storage.UnreliableStore

/-!
# Writing records

A writer turns events into records.  It numbers them in turn, commits each record together with
its index entry if one is due, tries a commit a limited number of times, and then lets the event
go.  A number is used for one event only, whether its record was stored or not.

`persist` writes one event.  A `Desk` is a writer at the receiving end of a channel; it advances
by sections between which others may use the channel, and stops when the channel is closed and
empty.
-/

namespace CausalTrace

/-- A writer's memory. -/
structure Writer where
  index : Index
  /-- The number of the next record. -/
  next : RecordId
  /-- How often a commit is tried. -/
  attempts : Nat
  deriving DecidableEq, Repr, Inhabited

/-- How the attempts to store a record ended. -/
inductive Settlement where
  | stored
  | abandoned (failure : StoreError)
  /-- The writer did not survive. -/
  | lost
  deriving DecidableEq, Repr, Inhabited

namespace Writer

/-- A writer at its start.  Every record is tried at least once. -/
def new (attempts : Nat) : Writer := ⟨.empty, 1, max attempts 1⟩

/-- The record of the next event. -/
def record (writer : Writer) (event : Event) : Record :=
  .ofEvent writer.next event

/-- The record itself as a put. -/
def recordPut (record : Record) : Put :=
  ⟨Record.partition, RecordId.key record.id, record.encode⟩

/-- The batch that stores the record of the next event, with its index entry if one is due. -/
def batch (writer : Writer) (event : Event) : Batch :=
  recordPut (writer.record event) :: writer.index.stage (writer.record event)

/-- The writer after the record of the next event was acknowledged. -/
def acknowledged (writer : Writer) (event : Event) : Writer :=
  let record := writer.record event
  { writer with
      index := if writer.index.needs record then writer.index.confirm record.messageId
        else writer.index
      next := writer.next + 1 }

/-- The writer after the next event was let go. -/
def passed (writer : Writer) : Writer := { writer with next := writer.next + 1 }

/-- The writer after the attempts for the next event ended. -/
def settled (writer : Writer) (event : Event) : Settlement → Writer
  | .stored => writer.acknowledged event
  | .abandoned _ => writer.passed
  | .lost => writer

/-- Commits a batch until it is acknowledged, but at most as often as `left`
says and once more. -/
def tryCommit {σ : Type} [Store σ] (batch : Batch) : Nat → σ → Settlement × σ
  | left, store =>
    match Store.commit (Store.arrive store) batch with
    | (.done, store) => (.stored, store)
    | (.fatal, store) => (.lost, store)
    | (.failed failure, store) =>
      match left with
      | 0 => (.abandoned failure, store)
      | left + 1 => tryCommit batch left store

end Writer

/-- The failure that a settlement means for the one who asked. -/
def Settlement.result (id : RecordId) : Settlement → Except TraceError RecordId
  | stored => .ok id
  | abandoned failure => .error (.persistence failure.message)
  | lost => .error (.persistence "")

/-- The counts after an event was settled. -/
def Stats.settle (stats : Stats) : Settlement → Stats
  | .stored => { stats with persisted := stats.persisted + 1 }
  | .abandoned _ => { stats with failed := stats.failed + 1 }
  | .lost => stats

namespace Writer

/-- Writes one event; gives the number of its record, or why there is none. -/
def persist {σ : Type} [Store σ] (writer : Writer) (store : σ) (event : Event) :
    Settlement × Writer × σ :=
  let (settlement, store) := tryCommit (writer.batch event) (writer.attempts - 1) store
  (settlement, writer.settled event settlement, store)

end Writer

/-- What a writer did at its desk. -/
structure Summary where
  persisted : Nat
  failed : Nat
  last : Option RecordId
  /-- The failure that closing the store reported. -/
  closeFailure : Option StoreError
  deriving DecidableEq, Repr, Inhabited

namespace Summary

/-- Nothing done. -/
def empty : Summary := ⟨0, 0, none, none⟩

/-- The summary after one more event. -/
def count (summary : Summary) (id : RecordId) : Settlement → Summary
  | .stored => { summary with persisted := summary.persisted + 1, last := some id }
  | .abandoned _ => { summary with failed := summary.failed + 1 }
  | .lost => summary

end Summary

/-- Where a writer at its desk stands between two sections. -/
inductive DeskPhase where
  /-- It looks for the next event. -/
  | idle
  /-- It has taken an event, and `left` further attempts remain after the one that is due. -/
  | committing (event : Event) (left : Nat)
  /-- The attempts for an event have ended and are to be counted. -/
  | counting (event : Event) (settlement : Settlement)
  /-- It has closed the store. -/
  | finished
  /-- It did not survive a commit. -/
  | died
  deriving DecidableEq, Repr, Inhabited

/-- A writer at the receiving end of a channel. -/
structure Desk where
  writer : Writer
  phase : DeskPhase
  summary : Summary
  deriving DecidableEq, Repr, Inhabited

namespace Desk

/-- A desk where work has not begun. -/
def new (attempts : Nat) : Desk := ⟨.new attempts, .idle, .empty⟩

/-- Whether no more work will be done. -/
def isDone (desk : Desk) : Bool :=
  desk.phase == .finished || desk.phase == .died

/-- The summary, once the store is closed. -/
def summary? (desk : Desk) : Option Summary :=
  if desk.phase = .finished then some desk.summary else none

end Desk

/-- A desk with all it works on. -/
structure Workplace (σ : Type) where
  desk : Desk
  channel : Channel Event
  stats : Stats
  store : σ

namespace Workplace

variable {σ : Type} [Store σ]

/-- Looks for the next event, or ends the work. -/
def takeNext (work : Workplace σ) : Option (Workplace σ) :=
  match Channel.settleReceive work.channel.look with
  | (channel, .item event) =>
    some { work with
      channel := channel
      store := Store.arrive work.store
      desk := { work.desk with phase := .committing event (work.desk.writer.attempts - 1) } }
  | (channel, .closed) =>
    let (failure, store) := Store.close work.store
    some { work with
      channel := channel
      store := store
      desk := { work.desk with
        phase := .finished
        summary := { work.desk.summary with closeFailure := failure } } }
  | (_, .waiting) => none
  | (_, .timedOut) => none

/-- Makes one attempt to commit, unless the store holds it back. -/
def attempt (work : Workplace σ) (event : Event) (left : Nat) : Option (Workplace σ) :=
  if Store.holdsBack work.store then none
  else
    let settle (settlement : Settlement) (store : σ) : Workplace σ :=
      { work with store := store, desk := { work.desk with phase := .counting event settlement } }
    match Store.commit work.store (work.desk.writer.batch event) with
    | (.done, store) => some (settle .stored store)
    | (.fatal, store) =>
      some { work with store := store, desk := { work.desk with phase := .died } }
    | (.failed failure, store) =>
      match left with
      | 0 => some (settle (.abandoned failure) store)
      | left + 1 =>
        some { work with
          store := Store.arrive store
          desk := { work.desk with phase := .committing event left } }

/-- Counts an event whose attempts have ended. -/
def count (work : Workplace σ) (event : Event) (settlement : Settlement) : Workplace σ :=
  let id := work.desk.writer.next
  { work with
    stats := work.stats.settle settlement
    desk := {
      writer := work.desk.writer.settled event settlement
      phase := .idle
      summary := work.desk.summary.count id settlement } }

/-- One section of the work, or nothing if it has to wait or is done. -/
def step (work : Workplace σ) : Option (Workplace σ) :=
  match work.desk.phase with
  | .idle => work.takeNext
  | .committing event left => work.attempt event left
  | .counting event settlement => some (work.count event settlement)
  | .finished => none
  | .died => none

/-- At most so many sections. -/
def steps : Nat → Workplace σ → Workplace σ
  | 0, work => work
  | count + 1, work =>
    match work.step with
    | none => work
    | some work => steps count work

/-- How many sections an event takes at most. -/
def sectionsPerEvent (work : Workplace σ) : Nat := work.desk.writer.attempts + 3

/-- Works until it has to wait or is done.  No event takes more than `sectionsPerEvent`, and
besides those in the channel there is at most one at the desk. -/
def run (work : Workplace σ) : Workplace σ :=
  steps ((work.channel.size + 2) * work.sectionsPerEvent) work

end Workplace

end CausalTrace
