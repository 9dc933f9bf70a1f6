import CausalTrace.Proofs.Pipeline.Sessions

/-!
# Every capture is accounted for

The writer's books are right between any two sections: the events that it has taken from the channel
are those in its ledger and at most one in its hand, and the counters are what the ledger comes to.
The stop is right about the channel: once it stands behind the close nothing is accepted any more,
and once it stands behind the discard nothing waits and all that was given up is counted as lost.

A snapshot reads the counters one after the other while captures and the writer go on.  Each number
of a report is that of one moment, and the moments of the numbers that belong together agree.
-/

namespace CausalTrace

namespace Session

variable {σ : Type} {capacity : Nat} {s after : Session σ}

open Channel (Calls Fate)

/-! ## The writer's books -/

/-- How many events of a ledger came to an outcome. -/
def tally (ledger : List (Event × Settlement)) (outcome : Outcome) : Nat :=
  (ledger.map fun entry => Outcome.ofSettlement entry.2).count outcome

/-- A new entry of a ledger counts for its own outcome. -/
theorem tally_concat (ledger : List (Event × Settlement)) (event : Event)
    (settlement : Settlement) (outcome : Outcome) :
    tally (ledger ++ [(event, settlement)]) outcome
      = tally ledger outcome + if Outcome.ofSettlement settlement = outcome then 1 else 0 := by
  rw [tally, List.map_append, List.count_append, List.map_singleton, List.count_singleton, tally]
  simp only [beq_iff_eq]

/-- The calls on the channel, the writer's ledger and what it does now. -/
structure Books (capacity : Nat) (s : Session σ) : Prop where
  account : Calls.Account capacity s.line
  /-- As long as the writer lives, no event that it has taken is missing. -/
  receipts : s.desk.phase ≠ .died → s.line.receipts = s.ledger.map Prod.fst ++ s.inHand
  persisted : s.stats.persisted = tally s.ledger .persisted
  failed : s.stats.failed = tally s.ledger .failed
  survived : ∀ entry ∈ s.ledger, entry.2 ≠ .lost
  settled : ∀ event, s.desk.phase ≠ .counting event .lost
  asking : ∀ place, s.asking = some place →
    s.desk.phase = .idle ∧ ∃ stage, s.line.calls[place]? = some (.receive stage)
  finished : s.desk.phase = .finished → Channel.Call.receive .closed ∈ s.line.calls

/-- The books of a new session are empty. -/
theorem books_start (capacity : Nat) (policy : Backpressure) (attempts : Nat) (store : σ)
    (directory : Option String) :
    Books capacity (start capacity policy attempts store directory) where
  account := Calls.account_new capacity policy
  receipts _ := rfl
  persisted := rfl
  failed := rfl
  survived := nofun
  settled := nofun
  asking := nofun
  finished := nofun

/-- What the one who stops does leaves the books as they are. -/
theorem Books.staged (books : Books capacity s) (stage : StopStage) :
    Books capacity (s.staged stage) :=
  ⟨books.account, books.receipts, books.persisted, books.failed, books.survived, books.settled,
    books.asking, books.finished⟩

/-- A call of any kind goes on, and no event gets out of sight. -/
theorem Books.onLine (books : Books capacity s) {line : Calls Event} (next : s.line.Step line)
    (receipts : s.desk.phase ≠ .died →
      line.receipts = s.ledger.map Prod.fst ++ (s.onLine line).inHand) :
    Books capacity (s.onLine line) where
  account := books.account.step next
  receipts := receipts
  persisted := books.persisted
  failed := books.failed
  survived := books.survived
  settled := books.settled
  asking place asked := by
    obtain ⟨idle, stage, here⟩ := books.asking place asked
    exact ⟨idle, next.receive_stays here⟩
  finished done := by
    obtain ⟨place, here⟩ := List.mem_iff_getElem?.1 (books.finished done)
    exact List.mem_of_getElem? ((Calls.Leads.here.step next).returned here rfl)

/-- While the writer asks, it has in hand what its receive has taken. -/
theorem inHand_asking {place : Nat} (asked : s.asking = some place) :
    s.inHand = s.line.held place := by
  rw [inHand, asked]

/-- The writer has the same in hand after a call of somebody else. -/
theorem inHand_onLine {line : Calls Event}
    (held : ∀ place, s.asking = some place → line.held place = s.line.held place) :
    (s.onLine line).inHand = s.inHand := by
  unfold inHand onLine
  cases asked : s.asking with
  | none => rfl
  | some place => exact held place asked

/-- A call that begins changes nothing in the books. -/
theorem Books.begin (books : Books capacity s) {call : Channel.Call Event} (begins : call.Begins) :
    Books capacity (s.onLine (s.line.begin call)) := by
  refine books.onLine (.begin begins) fun survived => ?_
  rw [Calls.receipts_begin begins, books.receipts survived, inHand_onLine]
  intro place asked
  obtain ⟨-, stage, here⟩ := books.asking place asked
  obtain ⟨known, -⟩ := List.getElem?_eq_some_iff.1 here
  rw [Calls.held, Calls.held, Calls.begin, List.getElem?_append_left known]

/-- A call goes on that is not the writer's. -/
theorem Books.others (books : Books capacity s) {place : Nat} {call : Channel.Call Event}
    {line : Calls Event} (here : s.line.calls[place]? = some call)
    (other : ∀ stage, call ≠ .receive stage) (advanced : s.line.Advances place line) :
    Books capacity (s.onLine line) := by
  refine books.onLine (.advance place advanced) fun survived => ?_
  rcases books.account.receipts_effect advanced.effect with ⟨same, -⟩ | ⟨stage, item, receive, -⟩
  · rw [same, books.receipts survived, inHand_onLine]
    intro asked is
    obtain ⟨-, stage, receive⟩ := books.asking asked is
    obtain ⟨old, new, -, -, calls⟩ := advanced.effect.turned
    have elsewhere : place ≠ asked := by
      rintro rfl
      rw [here] at receive
      exact other stage (Option.some.inj receive)
    rw [Calls.held, Calls.held, calls, List.getElem?_set_ne elsewhere]
  · rw [here] at receive
    exact absurd (Option.some.inj receive) (other stage)

/-- The writer's receive goes on, and an event that it takes comes into the writer's hand. -/
theorem Books.receive (books : Books capacity s) {place : Nat} {line : Calls Event}
    (asked : s.asking = some place) (advanced : s.line.Advances place line) :
    Books capacity (s.onLine line) := by
  refine books.onLine (.advance place advanced) fun survived => ?_
  have receipts := books.receipts survived
  have asks : (s.onLine line).asking = some place := asked
  rw [inHand_asking asked] at receipts
  rw [inHand_asking asks]
  show line.receipts = s.ledger.map Prod.fst ++ line.held place
  rcases books.account.receipts_effect advanced.effect with
    ⟨same, held⟩ | ⟨stage, item, -, empty, held, taken⟩
  · rw [same, held, receipts]
  · rw [taken, held, receipts, empty, List.append_nil]

/-- The writer asks for nothing while it is at work. -/
theorem Books.asks_nothing (books : Books capacity s) (busy : s.desk.phase ≠ .idle) :
    s.asking = none := by
  cases asked : s.asking with
  | none => rfl
  | some place => exact absurd (books.asking place asked).1 busy

/-! ### The writer at work -/

/-- A writer that asks for an event has none in hand. -/
theorem Books.ask (books : Books capacity s) (idle : s.desk.phase = .idle)
    (free : s.asking = none) :
    Books capacity { s with
      line := s.line.begin (.receive .looking)
      asking := some s.line.calls.length } where
  account := books.account.begin .receive
  receipts survived := by
    have receipts := books.receipts survived
    rw [inHand, free, idle] at receipts
    have nothing : (s.line.begin (.receive .looking)).held s.line.calls.length = [] := by
      rw [Calls.held, Calls.begin, List.getElem?_concat_length]
      rfl
    show (s.line.begin (.receive .looking)).receipts
      = s.ledger.map Prod.fst ++ (s.line.begin (.receive .looking)).held s.line.calls.length
    rw [Calls.receipts_begin .receive, receipts, nothing]
  persisted := books.persisted
  failed := books.failed
  survived := books.survived
  settled := books.settled
  asking place asked := by
    cases asked
    exact ⟨idle, .looking, List.getElem?_concat_length⟩
  finished done := by
    rw [idle] at done
    cases done

/-- A writer that asked in vain has none in hand either. -/
theorem Books.askAgain (books : Books capacity s) {place : Nat}
    (asked : s.asking = some place) (here : s.line.calls[place]? = some (.receive .timedOut)) :
    Books capacity { s with asking := none } where
  account := books.account
  receipts survived := by
    have receipts := books.receipts survived
    rw [inHand_asking asked, Calls.held, here] at receipts
    rw [inHand, (books.asking place asked).1]
    exact receipts
  persisted := books.persisted
  failed := books.failed
  survived := books.survived
  settled := books.settled
  asking := nofun
  finished := books.finished

/-- Counting an event adds to the counters what it adds to the ledger. -/
theorem Books.count (books : Books capacity s) {event : Event} {settlement : Settlement}
    (phase : s.desk.phase = .counting event settlement) :
    Books capacity { s.worked (s.work.count event settlement) with
      ledger := s.ledger ++ [(event, settlement)] } := by
  have free := books.asks_nothing (by rw [phase]; nofun)
  have receipts := books.receipts (by rw [phase]; nofun)
  have survived : settlement ≠ .lost := by
    rintro rfl
    exact books.settled event phase
  refine ⟨books.account, fun _ => ?_, ?_, ?_, fun entry known => ?_, nofun, fun place asked => ?_,
    nofun⟩
  · rw [inHand, free, phase] at receipts
    show s.line.receipts = (s.ledger ++ [(event, settlement)]).map Prod.fst
      ++ inHand { s.worked (s.work.count event settlement) with
        ledger := s.ledger ++ [(event, settlement)] }
    rw [inHand, worked, free, List.map_append, List.map_singleton, receipts]
    exact (List.append_nil _).symm
  · refine .trans ?_ (tally_concat ..).symm
    rw [← books.persisted]
    cases settlement with
    | stored | abandoned => rfl
    | lost => exact absurd rfl survived
  · refine .trans ?_ (tally_concat ..).symm
    rw [← books.failed]
    cases settlement with
    | stored | abandoned => rfl
    | lost => exact absurd rfl survived
  · rcases List.mem_append.1 known with before | last
    · exact books.survived entry before
    · rw [List.mem_singleton.1 last]
      exact survived
  · rw [worked, free] at asked
    cases asked

section Writing

variable [Store σ]

/-- Everything that an attempt to commit can come to. -/
inductive Attempted (work : Workplace σ) (event : Event) : Workplace σ → Prop where
  | settled {settlement store} (survived : settlement ≠ .lost) :
      Attempted work event
        { work with store := store, desk := { work.desk with phase := .counting event settlement } }
  | again {left store} :
      Attempted work event
        { work with store := store, desk := { work.desk with phase := .committing event left } }
  | died {store} :
      Attempted work event { work with store := store, desk := { work.desk with phase := .died } }

/-- Every attempt comes to one of these. -/
theorem attempted {work later : Workplace σ} {event : Event} {left : Nat}
    (attempt : work.attempt event left = some later) : Attempted work event later := by
  unfold Workplace.attempt at attempt
  split at attempt
  next => cases attempt
  next =>
    split at attempt
    next =>
      cases attempt
      exact .settled nofun
    next =>
      cases attempt
      exact .died
    next =>
      split at attempt
      next =>
        cases attempt
        exact .settled nofun
      next =>
        cases attempt
        exact .again

/-- An event that its receive has taken goes over into the writer's hand, and stays one event. -/
theorem Books.given (books : Books capacity s) {place : Nat} {event : Event}
    (asked : s.asking = some place)
    (here : s.line.calls[place]? = some (.receive (.received event))) :
    Books capacity { s.worked (s.work.given event) with asking := none } where
  account := books.account
  receipts _ := by
    have receipts := books.receipts (by rw [(books.asking place asked).1]; nofun)
    rw [inHand_asking asked, Calls.held, here] at receipts
    exact receipts
  persisted := books.persisted
  failed := books.failed
  survived := books.survived
  settled := nofun
  asking := nofun
  finished := nofun

/-- A writer that finishes has nothing in hand. -/
theorem Books.finish (books : Books capacity s) {place : Nat}
    (asked : s.asking = some place) (here : s.line.calls[place]? = some (.receive .closed)) :
    Books capacity { s.worked s.work.finish with asking := none } where
  account := books.account
  receipts _ := by
    have receipts := books.receipts (by rw [(books.asking place asked).1]; nofun)
    rw [inHand_asking asked, Calls.held, here] at receipts
    exact receipts
  persisted := books.persisted
  failed := books.failed
  survived := books.survived
  settled := nofun
  asking := nofun
  finished _ := List.mem_of_getElem? here

/-- An attempt to commit leaves the event in hand, whatever it comes to. -/
theorem Books.attempt (books : Books capacity s) {event : Event} {left : Nat}
    {work : Workplace σ} (phase : s.desk.phase = .committing event left)
    (attempt : s.work.attempt event left = some work) : Books capacity (s.worked work) := by
  have free := books.asks_nothing (by rw [phase]; nofun)
  have receipts := books.receipts (by rw [phase]; nofun)
  rw [inHand, free, phase] at receipts
  have asks : ∀ place, (s.worked work).asking = some place → False := by
    intro place asked
    rw [worked, free] at asked
    cases asked
  cases attempted attempt with
  | settled survived =>
    exact ⟨books.account, fun _ => by rw [inHand, worked, free]; exact receipts, books.persisted,
      books.failed, books.survived, fun _ same => survived (DeskPhase.counting.inj same).2,
      fun place asked => (asks place asked).elim, nofun⟩
  | again =>
    exact ⟨books.account, fun _ => by rw [inHand, worked, free]; exact receipts, books.persisted,
      books.failed, books.survived, nofun, fun place asked => (asks place asked).elim, nofun⟩
  | died =>
    exact ⟨books.account, fun survived => absurd rfl survived, books.persisted, books.failed,
      books.survived, nofun, fun place asked => (asks place asked).elim, nofun⟩

end Writing

/-! ## How far the stop has come -/

/-- How many events were taken from the channel to be given up. -/
def givenUp (s : Session σ) : Nat := (s.line.fates.filterMap Fate.discarder?).length

/-- Nothing was given up. -/
structure Intact (s : Session σ) : Prop where
  lost : s.stats.lost = 0
  givenUp : s.givenUp = 0

/-- The channel has ended, and what was given up is counted.  A writer that did not survive may
have left events in it. -/
structure Emptied (s : Session σ) : Prop where
  closed : s.line.channel.closed = true
  empty : s.desk.phase ≠ .died → s.line.channel.queue = []
  lost : s.stats.lost = s.givenUp

/-- The same, and if time was not up the writer is done and nothing was given up. -/
structure Left (s : Session σ) (timedOut : Bool) : Prop extends Emptied s where
  inTime : timedOut = false → s.stats.lost = 0 ∧ s.desk.isDone = true

/-- What the one who stops can rely on at a stage. -/
def StandsAt (s : Session σ) : StopStage → Prop
  | .running => s.Intact
  | .closing place => s.Intact ∧ ∃ waiting, s.line.calls[place]? = some (.close waiting) ∧
      (waiting.isSome = true → s.line.channel.closed = true)
  | .draining => s.Intact ∧ s.line.channel.closed = true
  | .discarding place => s.line.channel.closed = true ∧ s.stats.lost = 0 ∧
      ∃ stage, s.line.calls[place]? = some (.discard stage) ∧
        s.givenUp = (Channel.Call.discard stage : Channel.Call Event).threwAway ∧
        (stage = .clearing ∨ s.line.channel.queue = [])
  | .lingering => s.Emptied
  | .leaving timedOut | .reading timedOut _ => s.Left timedOut
  | .stopped report => s.Left report.timedOut

/-- Whether a call is one of those that end the channel. -/
def isEnding : Channel.Call Event → Bool
  | .close _ | .discard _ => true
  | _ => false

/-- What the calls of captures and of the writer leave to the one who stops. -/
structure Spares (line later : Calls Event) : Prop where
  closed : line.channel.closed = true → later.channel.closed = true
  empty : line.channel.closed = true → line.channel.queue = [] → later.channel.queue = []
  givenUp : later.fates.filterMap Fate.discarder? = line.fates.filterMap Fate.discarder?
  ending : ∀ (place : Nat) (call : Channel.Call Event), line.calls[place]? = some call →
    isEnding call = true → later.calls[place]? = some call

/-- Calls that stand where they stood leave everything. -/
theorem spares_refl (line : Calls Event) : Spares line line :=
  ⟨id, fun _ => id, rfl, fun _ _ here _ => here⟩

/-- A call that begins leaves everything: it has done nothing to the channel yet. -/
theorem spares_begin (line : Calls Event) (call : Channel.Call Event) :
    Spares line (line.begin call) where
  closed := id
  empty _ := id
  givenUp := rfl
  ending place other here _ := by
    obtain ⟨known, -⟩ := List.getElem?_eq_some_iff.1 here
    exact (List.getElem?_append_left known).trans here

/-- A section of a push or of a receive takes nothing from what the one who stops relies on. -/
theorem spares_advances {line later : Calls Event} {place : Nat} {call : Channel.Call Event}
    (here : line.calls[place]? = some call) (handsOn : isEnding call = false)
    (advanced : line.Advances place later) : Spares line later where
  closed closed := (advanced.effect.closed_of_closed closed).1
  empty closed empty := by
    cases advanced.effect with
    | accepted _ _ goesOn =>
      rw [closed] at goesOn
      cases goesOn
    | taken _ _ next =>
      rw [empty] at next
      cases next
    | cleared => rfl
    | _ => exact empty
  givenUp := by
    cases advanced.effect with
    | taken => exact List.filterMap_append.trans (List.append_nil _)
    | cleared discard =>
      rw [here] at discard
      cases discard
      cases handsOn
    | _ => rfl
  ending other ending there ends := by
    obtain ⟨old, new, -, -, calls⟩ := advanced.effect.turned
    have elsewhere : place ≠ other := by
      rintro rfl
      rw [here] at there
      cases there
      rw [handsOn] at ends
      cases ends
    rw [calls, List.getElem?_set_ne elsewhere, there]

/-- An ended channel without events stays so while others go on. -/
theorem Emptied.spared (emptied : s.Emptied) (spares : Spares s.line after.line)
    (lost : after.stats.lost = s.stats.lost)
    (done : s.desk.isDone = true → after.desk.phase = s.desk.phase) : after.Emptied where
  closed := spares.closed emptied.closed
  empty survived := by
    refine spares.empty emptied.closed (emptied.empty fun died => survived ?_)
    rw [done (by rw [Desk.isDone, died]; rfl), died]
  lost := by rw [lost, emptied.lost, givenUp, givenUp, spares.givenUp]

/-- What the one who leaves relies on stays so while others go on. -/
theorem Left.spared {timedOut : Bool} (left : s.Left timedOut) (spares : Spares s.line after.line)
    (lost : after.stats.lost = s.stats.lost)
    (done : s.desk.isDone = true → after.desk.phase = s.desk.phase) : after.Left timedOut where
  toEmptied := left.toEmptied.spared spares lost done
  inTime onTime := by
    obtain ⟨nothing, isDone⟩ := left.inTime onTime
    refine ⟨lost.trans nothing, ?_⟩
    rw [Desk.isDone, done isDone]
    exact isDone

/-- Captures and the writer leave alone what the one who stops relies on. -/
theorem StandsAt.spared {stage : StopStage} (stands : s.StandsAt stage)
    (spares : Spares s.line after.line) (lost : after.stats.lost = s.stats.lost)
    (done : s.desk.isDone = true → after.desk.phase = s.desk.phase) : after.StandsAt stage := by
  have givenUp : after.givenUp = s.givenUp := by
    rw [Session.givenUp, spares.givenUp, Session.givenUp]
  have intact : s.Intact → after.Intact := fun intact =>
    ⟨lost.trans intact.lost, givenUp.trans intact.givenUp⟩
  cases stage with
  | running => exact intact stands
  | closing place =>
    obtain ⟨whole, waiting, here, closed⟩ := stands
    exact ⟨intact whole, waiting, spares.ending place _ here rfl, fun some =>
      spares.closed (closed some)⟩
  | draining => exact ⟨intact stands.1, spares.closed stands.2⟩
  | discarding place =>
    obtain ⟨closed, nothing, stage, here, count, empty⟩ := stands
    exact ⟨spares.closed closed, lost.trans nothing, stage, spares.ending place _ here rfl,
      givenUp.trans count, empty.imp_right (spares.empty closed)⟩
  | lingering => exact Emptied.spared stands spares lost done
  | leaving timedOut | reading timedOut => exact Left.spared stands spares lost done
  | stopped report => exact Left.spared stands spares lost done

/-- A section of the close. -/
theorem StandsAt.close {place : Nat} {line : Calls Event} (stands : s.StandsAt (.closing place))
    (advanced : s.line.Advances place line) : (s.onLine line).StandsAt (.closing place) := by
  obtain ⟨whole, waiting, here, closed⟩ := stands
  obtain ⟨known, -⟩ := List.getElem?_eq_some_iff.1 here
  cases advanced.effect with
  | closed close =>
    exact ⟨⟨whole.lost, whole.givenUp⟩, _, List.getElem?_set_self known, fun _ => rfl⟩
  | rejected other | dropped other | pushWaits other | accepted other | pushCounted other
  | taken other | ended other | receiveWaits other | timedOut other | receiveCounted other
  | cleared other | discardCounted other =>
    rw [here] at other
    cases other

/-- A section of the discard. -/
theorem StandsAt.discard {place : Nat} {line : Calls Event}
    (stands : s.StandsAt (.discarding place)) (advanced : s.line.Advances place line) :
    (s.onLine line).StandsAt (.discarding place) := by
  obtain ⟨closed, nothing, stage, here, count, empty⟩ := stands
  obtain ⟨known, -⟩ := List.getElem?_eq_some_iff.1 here
  cases advanced.effect with
  | cleared discard =>
    rw [here] at discard
    cases discard
    refine ⟨closed, nothing, _, List.getElem?_set_self known, ?_, .inr rfl⟩
    show ((s.line.fates ++ List.replicate s.line.channel.size
      (Fate.discarded place)).filterMap Fate.discarder?).length = s.line.channel.size
    rw [List.filterMap_append, List.length_append,
      List.filterMap_replicate_of_some (f := Fate.discarder?) rfl, List.length_replicate]
    have before : (s.line.fates.filterMap Fate.discarder?).length = 0 := count
    omega
  | discardCounted discard =>
    rw [here] at discard
    cases discard
    exact ⟨closed, nothing, _, List.getElem?_set_self known, count, .inr (empty.resolve_left nofun)⟩
  | rejected other | dropped other | pushWaits other | accepted other | pushCounted other
  | taken other | ended other | receiveWaits other | timedOut other | receiveCounted other
  | closed other =>
    rw [here] at other
    cases other

/-! ## Every section keeps both -/

/-- What holds between any two sections of a session. -/
structure Kept (capacity : Nat) (s : Session σ) : Prop where
  books : Books capacity s
  stands : s.StandsAt s.stage

/-- A desk is done when it has finished or died. -/
theorem isDone_iff {desk : Desk} :
    desk.isDone = true ↔ desk.phase = .finished ∨ desk.phase = .died := by
  rw [Desk.isDone, Bool.or_eq_true, beq_iff_eq, beq_iff_eq]

/-- A writer that has found the end has left nothing in the channel. -/
theorem Books.ended (books : Books capacity s) (finished : s.desk.phase = .finished) :
    s.line.channel.queue = [] := by
  obtain ⟨place, here⟩ := List.mem_iff_getElem?.1 (books.finished finished)
  exact (books.account.ended place here).2

/-- A desk in any other phase is not done. -/
theorem not_isDone {desk : Desk} {phase : DeskPhase} (here : desk.phase = phase)
    (works : phase ≠ .finished ∧ phase ≠ .died) : desk.isDone ≠ true := by
  rw [Ne, isDone_iff, here]
  exact not_or.2 works

/-- A section of a capture keeps everything. -/
theorem Kept.captures (kept : Kept capacity s) (captures : s.Captures after) :
    Kept capacity after := by
  obtain ⟨books, stands⟩ := kept
  cases captures with
  | begin event =>
    exact ⟨books.begin (.push event), stands.spared (spares_begin _ _) rfl fun _ => rfl⟩
  | push place here advanced =>
    exact ⟨books.others here nofun advanced,
      stands.spared (spares_advances here rfl advanced) rfl fun _ => rfl⟩
  | misread =>
    exact ⟨⟨books.account, books.receipts, books.persisted, books.failed, books.survived,
      books.settled, books.asking, books.finished⟩,
      stands.spared (spares_refl _) rfl fun _ => rfl⟩

/-- A section of the one who stops keeps everything. -/
theorem Kept.stops (kept : Kept capacity s) (stops : s.Stops after) : Kept capacity after := by
  obtain ⟨books, stands⟩ := kept
  cases stops with
  | stop here =>
    rw [here] at stands
    exact ⟨(books.begin .close).staged _, ⟨stands.lost, stands.givenUp⟩, none,
      List.getElem?_concat_length, nofun⟩
  | close here advanced =>
    rw [here] at stands
    obtain ⟨-, waiting, close, -⟩ := id stands
    refine ⟨books.others close nofun advanced, ?_⟩
    show (s.onLine _).StandsAt s.stage
    rw [here]
    exact stands.close advanced
  | drain here closed =>
    rw [here] at stands
    obtain ⟨whole, waiting, close, ended⟩ := stands
    rw [closed] at close
    cases close
    exact ⟨books.staged _, ⟨whole.lost, whole.givenUp⟩, ended rfl⟩
  | inTime here done =>
    rw [here] at stands
    obtain ⟨whole, closed⟩ := stands
    -- A writer that is done has finished, unless it died, and then it has found the end.
    have empty : s.desk.phase ≠ .died → s.line.channel.queue = [] := fun survived =>
      books.ended (isDone_iff.1 done |>.resolve_right survived)
    exact ⟨books.staged _, ⟨closed, empty, whole.lost.trans whole.givenUp.symm⟩,
      fun _ => ⟨whole.lost, done⟩⟩
  | giveUp here =>
    rw [here] at stands
    exact ⟨(books.begin .discard).staged _, stands.2, stands.1.lost, .clearing,
      List.getElem?_concat_length, stands.1.givenUp, .inl rfl⟩
  | discard here advanced =>
    rw [here] at stands
    -- The discard is a call like any other, and others may have theirs between its sections.
    obtain ⟨-, -, stage, discard, -⟩ := id stands
    refine ⟨books.others discard nofun advanced, ?_⟩
    show (s.onLine _).StandsAt s.stage
    rw [here]
    exact stands.discard advanced
  | tally here discarded =>
    rw [here] at stands
    obtain ⟨closed, nothing, stage, discard, count, empty⟩ := stands
    rw [discarded] at discard
    cases discard
    refine ⟨⟨books.account, books.receipts, books.persisted, books.failed, books.survived,
      books.settled, books.asking, books.finished⟩, closed, fun _ => empty.resolve_left nofun, ?_⟩
    show s.stats.lost + _ = s.givenUp
    rw [nothing, count, Nat.zero_add]
    rfl
  | leave here =>
    rw [here] at stands
    exact ⟨books.staged _, ⟨stands.closed, stands.empty, stands.lost⟩, nofun⟩
  | look here | load here | report here =>
    rw [here] at stands
    exact ⟨books.staged _, ⟨stands.closed, stands.empty, stands.lost⟩, stands.inTime⟩

section Steps

variable [Store σ]

/-- The writer ends nothing and gives nothing up. -/
theorem Works.spares (books : Books capacity s) (works : s.Works after) :
    Spares s.line after.line := by
  cases works with
  | ask => exact spares_begin _ _
  | receive asked advanced =>
    obtain ⟨-, stage, here⟩ := books.asking _ asked
    exact spares_advances here rfl advanced
  | attempt phase attempt => cases attempted attempt <;> exact spares_refl _
  | given | askAgain | finish | count => exact spares_refl _

/-- A section of the writer keeps both. -/
theorem Kept.works (kept : Kept capacity s) (works : s.Works after) : Kept capacity after := by
  obtain ⟨books, stands⟩ := kept
  have spares := works.spares books
  cases works with
  | ask idle free => exact ⟨books.ask idle free, stands.spared spares rfl fun _ => rfl⟩
  | receive asked advanced =>
    exact ⟨books.receive asked advanced, stands.spared spares rfl fun _ => rfl⟩
  | given asked here =>
    have busy := not_isDone (books.asking _ asked).1 ⟨nofun, nofun⟩
    exact ⟨books.given asked here, stands.spared spares rfl fun done => absurd done busy⟩
  | askAgain asked here =>
    exact ⟨books.askAgain asked here, stands.spared spares rfl fun _ => rfl⟩
  | finish asked here =>
    have busy := not_isDone (books.asking _ asked).1 ⟨nofun, nofun⟩
    exact ⟨books.finish asked here, stands.spared spares rfl fun done => absurd done busy⟩
  | attempt phase attempt =>
    have busy := not_isDone phase ⟨nofun, nofun⟩
    refine ⟨books.attempt phase attempt, ?_⟩
    cases attempted attempt <;> exact stands.spared spares rfl fun done => absurd done busy
  | @count event settlement phase =>
    have busy := not_isDone phase ⟨nofun, nofun⟩
    refine ⟨books.count phase, stands.spared spares ?_ fun done => absurd done busy⟩
    cases settlement <;> rfl

/-- A section of any party keeps everything. -/
theorem Kept.step (kept : Kept capacity s) (next : Step s after) : Kept capacity after := by
  cases next with
  | captures captures => exact kept.captures captures
  | works works => exact kept.works works
  | stops stops => exact kept.stops stops

end Steps

end Session

end CausalTrace
