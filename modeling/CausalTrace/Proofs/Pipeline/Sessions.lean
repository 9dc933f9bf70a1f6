import CausalTrace.Pipeline
import CausalTrace.Proofs.Channel.Safety

/-!
# Sessions

A session is a started pipeline while three kinds of parties use its channel: any number of captures
that hand in events, the writer at its desk, and one party that stops the pipeline.  Each of them
advances by sections, in any order and at any time.  The sections are those of `Channel`,
`Workplace` and `Stats`; what `Pipeline.stop` does at once is here done step by step, and a snapshot
reads one counter after the other.

A wait for the writer ends when the writer is done, or when its time is up, and that may be at any
moment.  How long a commit takes is when its section runs.
-/

namespace CausalTrace

/-! ## The two ends of a receive at the desk -/

namespace Workplace

variable {σ : Type} [Store σ]

/-- The desk has been handed an event. -/
def given (work : Workplace σ) (event : Event) : Workplace σ :=
  { work with
    store := Store.arrive work.store
    desk := { work.desk with phase := .committing event (work.desk.writer.attempts - 1) } }

/-- The desk has been told of the end, and closes the store. -/
def finish (work : Workplace σ) : Workplace σ :=
  let (failure, store) := Store.close work.store
  { work with
    store := store
    desk := { work.desk with
      phase := .finished
      summary := { work.desk.summary with closeFailure := failure } } }

/-- Taking the next event is a receive, and then one of the two. -/
theorem takeNext_eq (work : Workplace σ) :
    work.takeNext =
      match Channel.settleReceive work.channel.look with
      | (channel, .item event) => some ({ work with channel := channel }.given event)
      | (channel, .closed) => some { work with channel := channel }.finish
      | (_, .waiting) => none
      | (_, .timedOut) => none := by
  unfold takeNext
  rcases Channel.settleReceive work.channel.look with ⟨channel, _ | _ | _ | _⟩ <;> rfl

/-- A commit that succeeds settles the event as stored. -/
theorem attempt_done {work : Workplace σ} {event : Event} {left : Nat} {after : σ}
    (ready : Store.holdsBack work.store = false)
    (committed : Store.commit work.store (work.desk.writer.batch event) = (.done, after)) :
    work.attempt event left = some { work with
      store := after, desk := { work.desk with phase := .counting event .stored } } := by
  rw [attempt, ready, if_neg Bool.false_ne_true]
  simp only [committed]

end Workplace

/-- The counts in the order in which a snapshot reads them. -/
def Counts.inOrder (counts : Counts) : List Nat :=
  [counts.enqueued, counts.dropped, counts.rejected, counts.malformed, counts.persisted,
    counts.failed, counts.lost]

/-! ## States of a session -/

/-- How far a pipeline has been stopped. -/
inductive StopStage where
  | running
  /-- The channel is being closed, by the call at a place. -/
  | closing (place : Nat)
  /-- The writer has time to finish. -/
  | draining
  /-- Time was up, and what is still in the channel is given up, by the call at a place. -/
  | discarding (place : Nat)
  /-- The writer has time to finish the commit that it is in. -/
  | lingering
  /-- No one waits for the writer any more. -/
  | leaving (timedOut : Bool)
  /-- The counters are being read; so many have been. -/
  | reading (timedOut : Bool) (loads : List Nat)
  | stopped (report : Report)
  deriving Repr

/-- A started pipeline, with all that its parties are doing. -/
structure Session (σ : Type) where
  line : Channel.Calls Event
  desk : Desk
  /-- The receive that the writer waits for. -/
  asking : Option Nat
  stats : Stats
  store : σ
  directory : Option String
  stage : StopStage
  /-- What the writer has counted, in order. -/
  ledger : List (Event × Settlement)

namespace Session

variable {σ : Type} [Store σ]

/-- A pipeline that has just been started. -/
def start (capacity : Nat) (policy : Backpressure) (attempts : Nat) (store : σ)
    (directory : Option String) : Session σ :=
  ⟨.new capacity policy, .new attempts, none, .zero, store, directory, .running, []⟩

/-- What the writer works on. -/
def work (s : Session σ) : Workplace σ := ⟨s.desk, s.line.channel, s.stats, s.store⟩

/-- After a section of the writer's work. -/
def worked (s : Session σ) (work : Workplace σ) : Session σ :=
  { s with
    line := { s.line with channel := work.channel }
    desk := work.desk
    stats := work.stats
    store := work.store }

/-- After a section of a call. -/
def onLine (s : Session σ) (line : Channel.Calls Event) : Session σ := { s with line := line }

/-- After a step of the one who stops. -/
def staged (s : Session σ) (stage : StopStage) : Session σ := { s with stage := stage }

/-- All counts at this moment. -/
def counts (s : Session σ) : Counts := s.stats.snapshot (some s.line.channel.metrics)

/-- A section of a capture. -/
inductive Captures (s : Session σ) : Session σ → Prop where
  /-- An event is handed in. -/
  | begin (event : Event) : Captures s (s.onLine (s.line.begin (.push event .entering)))
  | push (place : Nat) {event stage line} (here : s.line.calls[place]? = some (.push event stage))
      (advanced : s.line.Advances place line) : Captures s (s.onLine line)
  /-- A header cannot be read. -/
  | misread : Captures s { s with stats.malformed := s.stats.malformed + 1 }

/-- A section of the writer. -/
inductive Works (s : Session σ) : Session σ → Prop where
  /-- It asks for the next event. -/
  | ask (idle : s.desk.phase = .idle) (free : s.asking = none) :
      Works s { s with
        line := s.line.begin (.receive .looking)
        asking := some s.line.calls.length }
  | receive {place line} (asked : s.asking = some place)
      (advanced : s.line.Advances place line) : Works s (s.onLine line)
  | given {place event} (asked : s.asking = some place)
      (here : s.line.calls[place]? = some (.receive (.received event))) :
      Works s { s.worked (s.work.given event) with asking := none }
  | askAgain {place} (asked : s.asking = some place)
      (here : s.line.calls[place]? = some (.receive .timedOut)) : Works s { s with asking := none }
  | finish {place} (asked : s.asking = some place)
      (here : s.line.calls[place]? = some (.receive .closed)) :
      Works s { s.worked s.work.finish with asking := none }
  | attempt {event left work} (phase : s.desk.phase = .committing event left)
      (attempted : s.work.attempt event left = some work) : Works s (s.worked work)
  | count {event settlement} (phase : s.desk.phase = .counting event settlement) :
      Works s { s.worked (s.work.count event settlement) with
        ledger := s.ledger ++ [(event, settlement)] }

/-- A section of the one who stops. -/
inductive Stops (s : Session σ) : Session σ → Prop where
  | stop (here : s.stage = .running) :
      Stops s ((s.onLine (s.line.begin (.close none))).staged (.closing s.line.calls.length))
  | close {place line} (here : s.stage = .closing place) (advanced : s.line.Advances place line) :
      Stops s (s.onLine line)
  | drain {place waiting} (here : s.stage = .closing place)
      (closed : s.line.calls[place]? = some (.close (some waiting))) : Stops s (s.staged .draining)
  /-- The writer was done in time. -/
  | inTime (here : s.stage = .draining) (done : s.desk.isDone = true) :
      Stops s (s.staged (.leaving false))
  /-- Time is up. -/
  | giveUp (here : s.stage = .draining) :
      Stops s ((s.onLine (s.line.begin (.discard .clearing))).staged
        (.discarding s.line.calls.length))
  | discard {place line} (here : s.stage = .discarding place)
      (advanced : s.line.Advances place line) : Stops s (s.onLine line)
  | tally {place count} (here : s.stage = .discarding place)
      (discarded : s.line.calls[place]? = some (.discard (.done count))) :
      Stops s ({ s with stats.lost := s.stats.lost + count }.staged .lingering)
  /-- The writer was done after all, or is left to itself. -/
  | leave (here : s.stage = .lingering) : Stops s (s.staged (.leaving true))
  /-- The hooks are gone. -/
  | look {timedOut} (here : s.stage = .leaving timedOut) : Stops s (s.staged (.reading timedOut []))
  | load {timedOut loads value} (here : s.stage = .reading timedOut loads)
      (found : s.counts.inOrder[loads.length]? = some value) :
      Stops s (s.staged (.reading timedOut (loads ++ [value])))
  | report {timedOut counts} (here : s.stage = .reading timedOut counts.inOrder) :
      Stops s (s.staged (.stopped ⟨counts, timedOut, s.directory⟩))

/-- A section of one of the parties. -/
inductive Step (s : Session σ) : Session σ → Prop where
  | captures {after} (captures : s.Captures after) : Step s after
  | works {after} (works : s.Works after) : Step s after
  | stops {after} (stops : s.Stops after) : Step s after

/-- Any sections, interleaved in any way. -/
inductive Leads (start : Session σ) : Session σ → Prop where
  | here : Leads start start
  | step {s after} (prior : Leads start s) (next : Step s after) : Leads start after

/-- What is led to can be led on. -/
theorem Leads.trans {first middle last : Session σ} (before : Leads first middle)
    (behind : Leads middle last) : Leads first last := by
  induction behind with
  | here => exact before
  | step _ next ih => exact .step ih next

/-! ## What became of events -/

/-- The event that the writer has taken from the channel and not yet counted, if there is one. -/
def inHand (s : Session σ) : List Event :=
  match s.asking with
  | some place => s.line.held place
  | none =>
    match s.desk.phase with
    | .committing event _ | .counting event _ => [event]
    | _ => []

/-- What became of an event that was accepted and has left the channel. -/
inductive Outcome where
  | persisted
  | failed
  /-- It was given up when time was up. -/
  | lost
  /-- The writer has not finished with it. -/
  | inHand
  deriving DecidableEq, Repr

/-- The outcome that a settlement is counted as. -/
def Outcome.ofSettlement : Settlement → Outcome
  | .stored => persisted
  | .abandoned _ => failed
  | .lost => inHand

/-- What became of events that left the channel, when those that were received were
settled in turn. -/
def outcomesOf : List Channel.Fate → List Settlement → List Outcome
  | [], _ => []
  | .discarded _ :: fates, settlements => .lost :: outcomesOf fates settlements
  | .received _ :: fates, [] => .inHand :: outcomesOf fates []
  | .received _ :: fates, settlement :: settlements =>
    .ofSettlement settlement :: outcomesOf fates settlements

/-- What became of the accepted events that have left the channel, in the order of acceptance. -/
def outcomes (s : Session σ) : List Outcome :=
  outcomesOf s.line.fates (s.ledger.map Prod.snd)

end Session

end CausalTrace
