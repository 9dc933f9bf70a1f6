import CausalTrace.Proofs.Pipeline.Accounting
import Mathlib.Data.List.Induction

/-!
# The report of a shutdown

A report is read while captures are still refused and the writer may still count the event in its
hand.  Behind the close the channel accepts and drops nothing, and behind the discard nothing waits
in it, so of all the numbers of a report only those of the event in hand and of refused captures
can move while it is read.  `Accounted` says what the numbers of the report come to, and at which
moments.
-/

namespace CausalTrace

namespace Session

open Channel (Calls Fate)

variable {σ : Type} {capacity : Nat} {s after : Session σ}

/-! ## What became of events that have left the channel -/

/-- Every fate has an outcome. -/
theorem length_outcomesOf (fates : List Fate) (settlements : List Settlement) :
    (outcomesOf fates settlements).length = fates.length := by
  induction fates generalizing settlements with
  | nil => rfl
  | cons fate rest ih =>
    cases fate with
    | discarded => exact congrArg (· + 1) (ih settlements)
    | received =>
      cases settlements with
      | nil => exact congrArg (· + 1) (ih [])
      | cons settlement settlements => exact congrArg (· + 1) (ih settlements)

/-- Settled events have the outcomes of their settlements, those given up are lost, and the rest of
those that were received are in hand. -/
theorem count_outcomesOf {fates : List Fate} {settlements : List Settlement}
    (received : settlements.length ≤ (fates.filterMap Fate.receiver?).length)
    (outcome : Outcome) :
    (outcomesOf fates settlements).count outcome
      = (settlements.map Outcome.ofSettlement).count outcome
        + (if outcome = .lost then (fates.filterMap Fate.discarder?).length else 0)
        + (if outcome = .inHand then
            (fates.filterMap Fate.receiver?).length - settlements.length else 0) := by
  induction fates generalizing settlements with
  | nil =>
    -- Receipts beyond the settlements are in the hand of the writer.
    cases settlements with
    | nil => cases outcome <;> rfl
    | cons => cases received
  | cons fate rest ih =>
    cases fate with
    | discarded place =>
      rw [List.filterMap_cons_none (f := Fate.receiver?) rfl] at received ⊢
      rw [List.filterMap_cons_some (f := Fate.discarder?) rfl, outcomesOf, List.count_cons,
        ih received, List.length_cons]
      by_cases lost : outcome = .lost
      · subst lost
        simp only [beq_self_eq_true, if_true]
        omega
      · have other : (Outcome.lost == outcome) = false := beq_eq_false_iff_ne.2 (Ne.symm lost)
        rw [other, if_neg lost, if_neg lost]
        rfl
    | received place =>
      rw [List.filterMap_cons_some (f := Fate.receiver?) rfl, List.length_cons] at received ⊢
      rw [List.filterMap_cons_none (f := Fate.discarder?) rfl]
      cases settlements with
      | nil =>
        rw [outcomesOf, List.count_cons, ih (Nat.zero_le _)]
        cases outcome <;> simp
      | cons settlement settlements =>
        rw [List.length_cons] at received
        rw [outcomesOf, List.count_cons, ih (by omega), List.map_cons, List.count_cons,
          List.length_cons]
        have same : (rest.filterMap Fate.receiver?).length + 1 - (settlements.length + 1)
          = (rest.filterMap Fate.receiver?).length - settlements.length := by omega
        rw [same]
        omega

/-! ## The books of a channel that has ended -/

/-- A writer that lives has taken the events in its ledger and the one in its hand. -/
theorem Books.taken (books : Books capacity s) (survived : s.desk.phase ≠ .died) :
    (s.line.fates.filterMap Fate.receiver?).length = s.ledger.length + s.inHand.length := by
  rw [← books.account.length_receipts, books.receipts survived, List.length_append,
    List.length_map]

/-- The writer has one event in hand at most. -/
theorem length_inHand_le (s : Session σ) : s.inHand.length ≤ 1 := by
  unfold inHand
  split
  next place _ =>
    rw [Calls.held]
    cases (s.line.calls[place]?).bind Channel.Call.took? with
    | none => exact Nat.zero_le _
    | some => exact Nat.le_refl _
  next => split <;> first | exact Nat.le_refl _ | exact Nat.zero_le _

/-- A settlement of a writer that lives is counted as persisted or as failed. -/
theorem tally_survived {ledger : List (Event × Settlement)}
    (survived : ∀ entry ∈ ledger, entry.2 ≠ .lost) :
    tally ledger .persisted + tally ledger .failed = ledger.length ∧ tally ledger .lost = 0 ∧
      tally ledger .inHand = 0 := by
  induction ledger using List.reverseRecOn with
  | nil => exact ⟨rfl, rfl, rfl⟩
  | append_singleton rest entry ih =>
    obtain ⟨sum, lost, inHand⟩ := ih fun other known =>
      survived other (List.mem_append_left _ known)
    obtain ⟨event, settlement⟩ := entry
    simp only [tally_concat, List.length_append, List.length_singleton]
    cases settlement with
    | stored | abandoned =>
      simp only [Outcome.ofSettlement, reduceCtorEq, if_true, if_false]
      omega
    | lost => exact absurd rfl (survived _ (List.mem_append_right _ (.head _)))

/-- Once the channel has ended and nothing waits in it, each accepted event has one outcome, and the
counters are the numbers of the outcomes. -/
structure Settled (s : Session σ) : Prop where
  closed : s.line.channel.closed = true
  empty : s.line.channel.queue = []
  complete : s.outcomes.length = s.line.accepted.length
  persisted : s.outcomes.count .persisted = s.stats.persisted
  failed : s.outcomes.count .failed = s.stats.failed
  lost : s.outcomes.count .lost = s.stats.lost
  inHand : s.outcomes.count .inHand = s.inHand.length
  accepted : s.line.accepted.length
    = s.stats.persisted + s.stats.failed + s.stats.lost + s.inHand.length

/-- When an ended channel is empty and the writer has survived, every accepted event is settled. -/
theorem Kept.settled (kept : Kept capacity s) (emptied : s.Emptied)
    (survived : s.desk.phase ≠ .died) : s.Settled := by
  obtain ⟨books, -⟩ := kept
  have empty := emptied.empty survived
  have taken := books.taken survived
  have left := books.account.length_queue
  have fates := Calls.length_fates s.line.fates
  obtain ⟨sum, none, noHand⟩ := tally_survived books.survived
  rw [empty, List.length_nil, Nat.add_zero] at left
  have lost := emptied.lost
  rw [givenUp] at lost
  have count : ∀ outcome, s.outcomes.count outcome = tally s.ledger outcome
      + (if outcome = .lost then s.stats.lost else 0)
      + (if outcome = .inHand then s.inHand.length else 0) := by
    intro outcome
    rw [outcomes, count_outcomesOf (by rw [List.length_map]; omega), List.map_map,
      List.length_map, taken, Nat.add_sub_cancel_left, lost]
    rfl
  refine ⟨emptied.closed, empty, by rw [outcomes, length_outcomesOf, left], ?_, ?_, ?_, ?_, ?_⟩
  · rw [count, books.persisted]; rfl
  · rw [count, books.failed]; rfl
  · rw [count, none]; simp
  · rw [count, noHand]; simp
  · rw [books.persisted, books.failed]
    omega

/-- Everything holds of a session that has just been started. -/
theorem kept_start (capacity : Nat) (policy : Backpressure) (attempts : Nat) (store : σ)
    (directory : Option String) : Kept capacity (start capacity policy attempts store directory) :=
  ⟨books_start .., ⟨rfl, rfl⟩⟩

/-! ## From one section to later ones -/

section Later

variable [Store σ] {first later : Session σ}

/-- What captures, the writer and the one who stops do to the channel are interleaved calls. -/
theorem Step.line (next : Step s after) : Calls.Leads s.line after.line := by
  rcases next with captures | works | stops
  · cases captures with
    | begin event => exact .step .here (.begin (.push event))
    | push place here advanced => exact .step .here (.advance _ advanced)
    | misread => exact .here
  · cases works with
    | ask => exact .step .here (.begin .receive)
    | receive asked advanced => exact .step .here (.advance _ advanced)
    | attempt phase attempt => cases attempted attempt <;> exact .here
    | given | askAgain | finish | count => exact .here
  · cases stops with
    | stop => exact .step .here (.begin .close)
    | giveUp => exact .step .here (.begin .discard)
    | close here advanced | discard here advanced => exact .step .here (.advance _ advanced)
    | drain | inTime | tally | leave | look | load | report => exact .here

/-- The calls on the channel are a run of their own. -/
theorem Leads.line (further : Leads s later) : Calls.Leads s.line later.line := by
  induction further with
  | here => exact .here
  | step _ next ih => exact ih.trans next.line

/-- A run keeps everything. -/
theorem Leads.kept (kept : Kept capacity s) (further : Leads s later) : Kept capacity later := by
  induction further with
  | here => exact kept
  | step _ next ih => exact ih.step next

/-- A writer that did not survive does nothing more. -/
theorem Kept.stays_dead (kept : Kept capacity s) (next : Step s after)
    (died : s.desk.phase = .died) : after.desk.phase = .died := by
  have unmoved : ∀ phase, s.desk.phase = phase → phase ≠ .died → False := by
    rintro _ rfl survived
    exact survived died
  rcases next with captures | works | stops
  · cases captures <;> exact died
  · cases works with
    | given asked | finish asked => exact (unmoved _ (kept.books.asking _ asked).1 nofun).elim
    | attempt phase | count phase => exact (unmoved _ phase nofun).elim
    | ask | receive | askAgain => exact died
  · cases stops <;> exact died

/-- A writer that is alive later has been alive before. -/
theorem Leads.survived (kept : Kept capacity s) (further : Leads s later)
    (survived : later.desk.phase ≠ .died) : s.desk.phase ≠ .died := by
  induction further with
  | here => exact survived
  | step prior next ih => exact ih fun died => survived ((prior.kept kept).stays_dead next died)

/-- Captures and the writer do not move the one who stops. -/
theorem Step.stage (next : Step s after) : after.stage = s.stage ∨ s.Stops after := by
  rcases next with captures | works | stops
  · cases captures <;> exact .inl rfl
  · cases works <;> exact .inl rfl
  · exact .inr stops

/-- The counters of the writer only grow. -/
theorem Step.counts_le (next : Step s after) :
    s.stats.persisted ≤ after.stats.persisted ∧ s.stats.failed ≤ after.stats.failed := by
  rcases next with captures | works | stops
  · cases captures <;> exact ⟨Nat.le_refl _, Nat.le_refl _⟩
  · cases works with
    | @count event settlement phase =>
      cases settlement with
      | stored => exact ⟨Nat.le_succ _, Nat.le_refl _⟩
      | abandoned => exact ⟨Nat.le_refl _, Nat.le_succ _⟩
      | lost => exact ⟨Nat.le_refl _, Nat.le_refl _⟩
    | attempt phase attempt =>
      cases attempted attempt <;> exact ⟨Nat.le_refl _, Nat.le_refl _⟩
    | ask | receive | given | askAgain | finish => exact ⟨Nat.le_refl _, Nat.le_refl _⟩
  · cases stops <;> exact ⟨Nat.le_refl _, Nat.le_refl _⟩

/-- The writer's counters never go down. -/
theorem Leads.counts_le (further : Leads s later) :
    s.stats.persisted ≤ later.stats.persisted ∧ s.stats.failed ≤ later.stats.failed := by
  induction further with
  | here => exact ⟨Nat.le_refl _, Nat.le_refl _⟩
  | step _ next ih =>
    obtain ⟨persisted, failed⟩ := next.counts_le
    exact ⟨Nat.le_trans ih.1 persisted, Nat.le_trans ih.2 failed⟩

/-! ## Reading the counters -/

/-- Each number of a snapshot is what its counter was at some moment of the snapshot. -/
theorem Leads.loaded (leads : Leads first s) (before : first.stage = .running) {timedOut : Bool}
    {loads : List Nat} (reading : s.stage = .reading timedOut loads) {place : Nat}
    (known : place < loads.length) :
    ∃ moment, Leads first moment ∧ Leads moment s ∧
      moment.stage = .reading timedOut (loads.take place) ∧
      moment.counts.inOrder[place]? = loads[place]? := by
  induction leads generalizing loads with
  | here =>
    rw [before] at reading
    cases reading
  | @step s after prior next ih =>
    have onward : ∀ {earlier : List Nat}, s.stage = .reading timedOut earlier →
        place < earlier.length → ∃ moment, Leads first moment ∧ Leads moment after ∧
          moment.stage = .reading timedOut (earlier.take place) ∧
          moment.counts.inOrder[place]? = earlier[place]? := by
      intro earlier reading known
      obtain ⟨moment, reached, rest, stage, value⟩ := ih reading known
      exact ⟨moment, reached, rest.step next, stage, value⟩
    rcases next.stage with same | stops
    · exact onward (same.symm.trans reading) known
    cases stops with
    | @load _ earlier value here found =>
      cases reading
      rw [List.length_append, List.length_singleton] at known
      rcases Nat.lt_or_eq_of_le (Nat.le_of_lt_succ known) with sooner | rfl
      · rw [List.take_append_of_le_length (Nat.le_of_lt sooner), List.getElem?_append_left sooner]
        exact onward here sooner
      · refine ⟨s, prior, Leads.here.step next, ?_, ?_⟩
        · rw [here, List.take_left']
          rfl
        · rw [found, List.getElem?_concat_length]
    | look =>
      cases reading
      cases known
    | close | discard => exact onward reading known
    | stop | drain | inTime | giveUp | tally | leave | report => cases reading

/-- A report has the numbers of one snapshot. -/
theorem Leads.reported (leads : Leads first s) (before : first.stage = .running)
    {report : Report} (stopped : s.stage = .stopped report) :
    ∃ moment, Leads first moment ∧ Leads moment s ∧
      moment.stage = .reading report.timedOut report.counts.inOrder := by
  induction leads with
  | here =>
    rw [before] at stopped
    cases stopped
  | @step s after prior next ih =>
    have onward : s.stage = .stopped report → ∃ moment, Leads first moment ∧
        Leads moment after ∧ moment.stage = .reading report.timedOut report.counts.inOrder := by
      intro stopped
      obtain ⟨moment, reached, rest, stage⟩ := ih stopped
      exact ⟨moment, reached, rest.step next, stage⟩
    rcases next.stage with same | stops
    · exact onward (same.symm.trans stopped)
    cases stops with
    | report here =>
      cases stopped
      exact ⟨s, prior, Leads.here.step next, here⟩
    | close | discard => exact onward stopped
    | stop | drain | inTime | giveUp | tally | leave | look | load => cases stopped

/-- A number of a snapshot, and the moment at which it was read. -/
theorem Leads.read (leads : Leads first s) (before : first.stage = .running) {timedOut : Bool}
    {counts : Counts} (loads place : Nat)
    (reading : s.stage = .reading timedOut (counts.inOrder.take loads)) (known : place < loads)
    (bound : loads ≤ 7) :
    ∃ moment, Leads first moment ∧ Leads moment s ∧
      moment.stage = .reading timedOut (counts.inOrder.take place) ∧
      moment.counts.inOrder[place]? = counts.inOrder[place]? := by
  have length : (counts.inOrder.take loads).length = loads := by
    rw [List.length_take]
    exact Nat.min_eq_left bound
  obtain ⟨moment, reached, rest, stage, value⟩ :=
    leads.loaded before reading (length.symm ▸ known)
  rw [List.take_take, Nat.min_eq_left (Nat.le_of_lt known)] at stage
  rw [List.getElem?_take_of_lt known] at value
  exact ⟨moment, reached, rest, stage, value⟩

/-! ## The numbers of a report -/

/-- Whether a call is a push that has been decided. -/
def isDecidedPush : Channel.Call Event → Bool
  | .push _ .counting | .push _ .accepted | .push _ (.refused _) => true
  | _ => false

/-- Whether a call is a push that was accepted and has still to be counted. -/
def isUncountedPush : Channel.Call Event → Bool
  | .push _ .counting => true
  | _ => false

omit [Store σ] in
/-- The pushes that have been decided are the accepted, the dropped and the rejected ones. -/
theorem Books.decided (books : Books capacity s) :
    s.line.calls.countP isDecidedPush
      = s.line.accepted.length + s.line.channel.metrics.dropped
        + s.line.channel.metrics.rejected := by
  have one : ∀ call : Channel.Call Event, (if isDecidedPush call then 1 else 0)
      = call.share .brought + call.share .dropped + call.share .rejected := by
    intro call
    rcases call with ⟨item, _ | _ | _ | _ | _ | _⟩ | _ | _ | _ <;> rfl
  rw [Calls.countP_eq_sums one, ← books.account.totals, ← books.account.totals,
    ← books.account.totals]
  rfl

/-- A push that was decided has been counted, unless it was accepted and has left the channel's lock
without having got to its counter. -/
theorem countP_isDecidedPush (calls : List (Channel.Call Event)) :
    calls.countP isDecidedPush
      = calls.countP Calls.isReturnedPush + calls.countP isUncountedPush := by
  have one : ∀ call : Channel.Call Event, (if isDecidedPush call then 1 else 0)
      = (if Calls.isReturnedPush call then 1 else 0) + if isUncountedPush call then 1 else 0 := by
    intro call
    rcases call with ⟨item, _ | _ | _ | _ | _ | _⟩ | _ | _ | _ <;> rfl
  induction calls with
  | nil => rfl
  | cons call rest ih =>
    rw [List.countP_cons, List.countP_cons, List.countP_cons, ih, one]
    omega

omit [Store σ] in
/-- A writer that has closed the store has nothing in its hand. -/
theorem Books.inHand_finished (books : Books capacity s)
    (finished : s.desk.phase = .finished) : s.inHand = [] := by
  have busy : s.desk.phase ≠ .idle := by
    rw [finished]
    nofun
  rw [inHand, books.asks_nothing busy, finished]

/-- What the numbers of a report come to when the run ends in a state.  Among the moments at which
the counters were read is one at which those of the channel agree, and a later one at which those
of the writer do. -/
structure Accounted (offered settled s : Session σ) (report : Report) : Prop where
  /-- Both moments are in the course of the snapshot that the report shows. -/
  reading : (∃ loads, offered.stage = .reading report.timedOut loads) ∧
    ∃ loads, settled.stage = .reading report.timedOut loads
  /-- Every push that was decided was accepted, dropped or rejected. -/
  decided : offered.line.calls.countP isDecidedPush
    = s.line.accepted.length + report.counts.dropped + report.counts.rejected
  /-- The pushes that have been counted make up the counters. -/
  counted : offered.line.calls.countP Calls.isReturnedPush
    = offered.counts.enqueued + report.counts.dropped + report.counts.rejected
  /-- The rest of those that were decided were accepted and have still to be counted. -/
  uncounted : offered.line.calls.countP isDecidedPush
    = offered.line.calls.countP Calls.isReturnedPush + offered.line.calls.countP isUncountedPush
  /-- Every accepted event was persisted, failed or lost, but for those in the writer's hand. -/
  accepted : s.line.accepted.length = report.counts.persisted + report.counts.failed
    + report.counts.lost + settled.inHand.length
  atMostOne : settled.inHand.length ≤ 1
  finished : settled.desk.phase = .finished → settled.inHand = []
  /-- Each accepted event has one of the outcomes, and the numbers are those of the outcomes. -/
  outcomes : settled.line.accepted = s.line.accepted ∧
    settled.outcomes.length = s.line.accepted.length ∧
    settled.outcomes.count .persisted = report.counts.persisted ∧
    settled.outcomes.count .failed = report.counts.failed ∧
    settled.outcomes.count .lost = report.counts.lost ∧
    settled.outcomes.count .inHand = settled.inHand.length
  closed : s.line.channel.closed = true
  empty : s.line.channel.queue = []
  inTime : report.timedOut = false → report.counts.lost = 0 ∧ settled.inHand = []

omit [Store σ] in
/-- While the counters are read, the channel has ended and what was given up is counted. -/
theorem Kept.left (kept : Kept capacity s) {timedOut : Bool} {loads : List Nat}
    (reading : s.stage = .reading timedOut loads) : s.Left timedOut := by
  have stands := kept.stands
  rw [reading] at stands
  exact stands

/-- Once nothing waits in a channel that has ended, nothing more is accepted or given up. -/
theorem Leads.lost_same (kept : Kept capacity s) (emptied : s.Emptied) (further : Leads s later)
    (after : later.Emptied) (survived : later.desk.phase ≠ .died) :
    later.stats.lost = s.stats.lost := by
  obtain ⟨-, same⟩ := further.line.closed_of_closed emptied.closed
  obtain ⟨-, fates⟩ := further.line.grows
  have before := kept.books.account.length_queue
  have behind := (further.kept kept).books.account.length_queue
  rw [emptied.empty (further.survived kept survived)] at before
  rw [after.empty survived, same] at behind
  rw [emptied.lost, after.lost, givenUp, givenUp, fates.eq_of_length (before.trans behind.symm)]

/-- Between two readings the writer finishes with one event at most, so the number of persisted
events that the first finds and the number of failed ones that the second finds are those of one of
the two moments. -/
theorem Leads.agree (kept : Kept capacity s) (emptied : s.Emptied) (further : Leads s later)
    (after : later.Emptied) (survived : later.desk.phase ≠ .died) :
    (later.stats.persisted = s.stats.persisted ∨ later.stats.failed = s.stats.failed) := by
  have before := (kept.settled emptied (further.survived kept survived)).accepted
  have behind := ((further.kept kept).settled after survived).accepted
  obtain ⟨-, same⟩ := further.line.closed_of_closed emptied.closed
  have lost := further.lost_same kept emptied after survived
  obtain ⟨persisted, failed⟩ := further.counts_le
  have hand := length_inHand_le s
  rw [same] at behind
  omega

/-- Among the moments at which the writer's counters are read is one at which all three of them are
what is read.  Those of the channel have been read before. -/
theorem Leads.exists_settled (leads : Leads first s) (before : first.stage = .running)
    (fresh : Kept capacity first) {timedOut : Bool} {counts : Counts}
    (reading : s.stage = .reading timedOut counts.inOrder) (survived : s.desk.phase ≠ .died) :
    ∃ early settled, Leads first early ∧ Leads early settled ∧ Leads settled s ∧
      early.stage = .reading timedOut (counts.inOrder.take 4) ∧
      (∃ loads, settled.stage = .reading timedOut loads) ∧
      settled.stats.persisted = counts.persisted ∧ settled.stats.failed = counts.failed ∧
      settled.stats.lost = counts.lost := by
  -- Going back from the snapshot, the moments of its last three numbers.
  obtain ⟨m₆, to₆, from₆, stage₆, lost⟩ := leads.read before 7 6 reading (by decide) (by decide)
  obtain ⟨m₅, to₅, from₅, stage₅, failed⟩ := to₆.read before 6 5 stage₆ (by decide) (by decide)
  obtain ⟨m₄, to₄, from₄, stage₄, persisted⟩ := to₅.read before 5 4 stage₅ (by decide) (by decide)
  have lost : m₆.stats.lost = counts.lost := Option.some.inj lost
  have failed : m₅.stats.failed = counts.failed := Option.some.inj failed
  have persisted : m₄.stats.persisted = counts.persisted := Option.some.inj persisted
  have kept₅ := to₅.kept fresh
  have kept₄ := to₄.kept fresh
  have emptied₆ := ((to₆.kept fresh).left stage₆).toEmptied
  have emptied₅ := (kept₅.left stage₅).toEmptied
  have emptied₄ := (kept₄.left stage₄).toEmptied
  have survived₆ := from₆.survived (to₆.kept fresh) survived
  have survived₅ := from₅.survived kept₅ survived₆
  have lost₅ := from₅.lost_same kept₅ emptied₅ emptied₆ survived₆
  have lost₄ := from₄.lost_same kept₄ emptied₄ emptied₅ survived₅
  -- In between the writer finishes with one event at most.  If it has not stored one, the later
  -- moment serves, and else the earlier one, as it has not failed to store one.
  rcases from₄.agree kept₄ emptied₄ emptied₅ survived₅ with same | same
  · exact ⟨m₄, m₅, to₄, from₄, from₅.trans from₆, stage₄, ⟨_, stage₅⟩, same.trans persisted,
      failed, lost₅.symm.trans lost⟩
  · exact ⟨m₄, m₄, to₄, .here, (from₄.trans from₅).trans from₆, stage₄, ⟨_, stage₄⟩, persisted,
      same.symm.trans failed, lost₄.symm.trans (lost₅.symm.trans lost)⟩

/-- However captures, the writer and the stop are interleaved, and whether or not the writer was
done in time, the report of the stop accounts for every capture. -/
theorem Leads.accounted {policy : Backpressure} {attempts : Nat} {store : σ}
    {directory : Option String} {report : Report}
    (leads : Leads (start capacity policy attempts store directory) s)
    (stopped : s.stage = .stopped report) (survived : s.desk.phase ≠ .died) :
    ∃ offered settled, Leads (start capacity policy attempts store directory) offered ∧
      Leads offered settled ∧ Leads settled s ∧ Accounted offered settled s report := by
  have fresh := kept_start capacity policy attempts store directory
  have running : (start capacity policy attempts store directory).stage = .running := rfl
  obtain ⟨last, toLast, fromLast, reading⟩ := leads.reported running stopped
  obtain ⟨early, settled, toEarly, since, till, earlyStage, ⟨loads, stage⟩, persisted, failed,
    lost⟩ := toLast.exists_settled running fresh reading
      (fromLast.survived (toLast.kept fresh) survived)
  have rest := till.trans fromLast
  have kept := (toEarly.trans since).kept fresh
  have left := kept.left stage
  have lives := rest.survived kept survived
  have books := kept.settled left.toEmptied lives
  -- The counters of the channel are right when the last of them is read: the one that was read
  -- before it has not changed, since the channel has ended.
  obtain ⟨offered, toOffered, untilEarly, offeredStage, rejected⟩ :=
    toEarly.read running 4 2 earlyStage (by decide) (by decide)
  obtain ⟨m₁, to₁, from₁, stage₁, dropped⟩ :=
    toOffered.read running 2 1 offeredStage (by decide) (by decide)
  have rejected : offered.line.channel.metrics.rejected = report.counts.rejected :=
    Option.some.inj rejected
  have dropped : m₁.line.channel.metrics.dropped = report.counts.dropped := Option.some.inj dropped
  have keptOffered := toOffered.kept fresh
  have undropped : offered.line.channel.metrics.dropped = report.counts.dropped :=
    (from₁.line.dropped_of_closed ((to₁.kept fresh).left stage₁).closed).trans dropped
  -- Nothing is accepted from then on.
  have onward := untilEarly.trans since
  have same : settled.line.accepted = s.line.accepted :=
    (rest.line.closed_of_closed left.closed).2.symm
  have sameOffered : offered.line.accepted = s.line.accepted :=
    ((onward.trans rest).line.closed_of_closed (keptOffered.left offeredStage).closed).2.symm
  have stands := (leads.kept fresh).stands
  rw [stopped] at stands
  refine ⟨offered, settled, toOffered, onward, rest, ?_⟩
  exact {
    reading := ⟨⟨_, offeredStage⟩, ⟨_, stage⟩⟩
    decided := by rw [keptOffered.books.decided, sameOffered, undropped, rejected]
    counted := by
      rw [← undropped, ← rejected]
      exact keptOffered.books.account.safe.pushes
    uncounted := countP_isDecidedPush _
    accepted := by rw [← same, books.accepted, persisted, failed, lost]
    atMostOne := length_inHand_le settled
    finished := kept.books.inHand_finished
    outcomes := ⟨same, same ▸ books.complete, books.persisted.trans persisted,
      books.failed.trans failed, books.lost.trans lost, books.inHand⟩
    closed := stands.closed
    empty := stands.empty survived
    inTime := fun onTime => by
      obtain ⟨nothing, done⟩ := left.inTime onTime
      exact ⟨lost.symm.trans nothing,
        kept.books.inHand_finished ((isDone_iff.1 done).resolve_right lives)⟩ }

end Later

/-- A session with one event in the writer's hand and one in the channel. -/
def inCommit : Session MemoryStore where
  line :=
    ⟨⟨2, .dropNewest, [default], false, ⟨2, 0, 0, 1, 0⟩⟩,
      [.push default .accepted, .push default .accepted, .receive (.received default)],
      [(0, default), (1, default)], [.received 2]⟩
  desk := ⟨.new 1, .committing default 0, .empty⟩
  asking := none
  stats := .zero
  store := .new
  directory := none
  stage := .running
  ledger := []

/-- The same after a stop that has not waited for the writer, at a stage behind the discard. -/
def stoppedInCommit (stage : StopStage) : Session MemoryStore :=
  { inCommit with
    line :=
      ⟨⟨2, .dropNewest, [], true, ⟨2, 0, 0, 1, 1⟩⟩,
        inCommit.line.calls ++ [.close (some 1), .discard (.done 1)],
        [(0, default), (1, default)], [.received 2, .discarded 4]⟩
    stats := ⟨0, 0, 0, 1⟩
    stage := stage }

/-- Two events are accepted, and the writer has one of them in a commit. -/
theorem leads_inCommit : Leads (start 2 .dropNewest 1 .new none) inCommit :=
  (Leads.here : Leads (start 2 .dropNewest 1 MemoryStore.new none) _)
    |>.step (.captures (.begin default))
    |>.step (.captures (.push 0 rfl (.enter rfl)))
    |>.step (.captures (.push 0 rfl (.countPushed rfl)))
    |>.step (.captures (.begin default))
    |>.step (.captures (.push 1 rfl (.enter rfl)))
    |>.step (.captures (.push 1 rfl (.countPushed rfl)))
    |>.step (.works (.ask rfl rfl))
    |>.step (.works (.receive rfl (.look rfl)))
    |>.step (.works (.receive rfl (.countReceived rfl)))
    |>.step (.works (.given rfl rfl))

/-- The pipeline is stopped without waiting for the commit. -/
theorem leads_leaving : Leads inCommit (stoppedInCommit (.leaving true)) :=
  (Leads.here : Leads inCommit _)
    |>.step (.stops (.stop rfl))
    |>.step (.stops (.close rfl (.close rfl)))
    |>.step (.stops (.drain rfl rfl))
    |>.step (.stops (.giveUp rfl))
    |>.step (.stops (.discard rfl (.clear rfl)))
    |>.step (.stops (.discard rfl (.countDiscarded rfl)))
    |>.step (.stops (.tally rfl rfl))
    |>.step (.stops (.leave rfl))

/-- The counters are read and reported while the commit goes on. -/
theorem leads_reported : Leads (stoppedInCommit (.leaving true))
    (stoppedInCommit (.stopped ⟨⟨2, 0, 0, 0, 0, 0, 1⟩, true, none⟩)) :=
  (Leads.here : Leads (stoppedInCommit (.leaving true)) _)
    |>.step (.stops (.look rfl))
    |>.step (.stops (.load rfl rfl))
    |>.step (.stops (.load rfl rfl))
    |>.step (.stops (.load rfl rfl))
    |>.step (.stops (.load rfl rfl))
    |>.step (.stops (.load rfl rfl))
    |>.step (.stops (.load rfl rfl))
    |>.step (.stops (.load rfl rfl))
    |>.step (.stops (.report rfl))

/-- Of two events that were accepted and counted, one is lost and one is in the writer's hand. -/
theorem Leads.accounted_stoppedInCommit :
    let report : Report := ⟨⟨2, 0, 0, 0, 0, 0, 1⟩, true, none⟩
    ∃ offered settled, Leads (start 2 .dropNewest 1 .new none) offered ∧ Leads offered settled ∧
      Leads settled (stoppedInCommit (.stopped report)) ∧
        Accounted offered settled (stoppedInCommit (.stopped report)) report :=
  Leads.accounted ((leads_inCommit.trans leads_leaving).trans leads_reported) rfl nofun

/-- A session in which the writer has been handed an event whose push has left the channel's lock
and has not got to its counter. -/
def handedUncounted : Session MemoryStore where
  line :=
    ⟨⟨1, .dropNewest, [], false, ⟨0, 0, 0, 1, 0⟩⟩,
      [.push default .counting, .receive (.received default)], [(0, default)], [.received 1]⟩
  desk := ⟨.new 1, .committing default 0, .empty⟩
  asking := none
  stats := .zero
  store := .new
  directory := none
  stage := .running
  ledger := []

/-- The same when the writer has stored the event and has been waited for, at a stage
behind the close. -/
def finishedUncounted (store : MemoryStore) (stage : StopStage) : Session MemoryStore :=
  { handedUncounted with
    line :=
      ⟨⟨1, .dropNewest, [], true, ⟨0, 0, 0, 1, 0⟩⟩,
        handedUncounted.line.calls ++ [.close (some 0), .receive .closed], [(0, default)],
        [.received 1]⟩
    desk := ⟨(Writer.new 1).acknowledged default, .finished, ⟨1, 0, some 1, none⟩⟩
    stats := ⟨0, 1, 0, 0⟩
    store := store
    stage := stage
    ledger := [(default, .stored)] }

/-- The writer is handed an event whose push has not got to its counter. -/
theorem leads_handedUncounted : Leads (start 1 .dropNewest 1 .new none) handedUncounted :=
  (Leads.here : Leads (start 1 .dropNewest 1 MemoryStore.new none) _)
    |>.step (.captures (.begin default))
    |>.step (.captures (.push 0 rfl (.enter rfl)))
    |>.step (.works (.ask rfl rfl))
    |>.step (.works (.receive rfl (.look rfl)))
    |>.step (.works (.receive rfl (.countReceived rfl)))
    |>.step (.works (.given rfl rfl))

/-- It stores the event and finishes before the push goes on. -/
theorem leads_finishedUncounted {after : MemoryStore}
    (committed : Store.commit MemoryStore.new ((Writer.new 1).batch default) = (.done, after)) :
    Leads handedUncounted (finishedUncounted (Store.close after).2 .draining) := by
  have attempted : handedUncounted.work.attempt default 0
      = some ⟨⟨.new 1, .counting default .stored, .empty⟩, handedUncounted.line.channel, .zero,
        after⟩ := Workplace.attempt_done rfl committed
  exact (Leads.here : Leads handedUncounted _)
    |>.step (.works (.attempt rfl attempted))
    |>.step (.works (.count rfl))
    |>.step (.stops (.stop rfl))
    |>.step (.stops (.close rfl (.close rfl)))
    |>.step (.stops (.drain rfl rfl))
    |>.step (.works (.ask rfl rfl))
    |>.step (.works (.receive rfl (.look rfl)))
    |>.step (.works (.finish rfl rfl))

/-- The counters are read and reported before the push goes on. -/
theorem leads_reportedUncounted (store : MemoryStore) : Leads (finishedUncounted store .draining)
    (finishedUncounted store (.stopped ⟨⟨0, 0, 0, 0, 1, 0, 0⟩, false, none⟩)) :=
  (Leads.here : Leads (finishedUncounted store .draining) _)
    |>.step (.stops (.inTime rfl rfl))
    |>.step (.stops (.look rfl))
    |>.step (.stops (.load rfl rfl))
    |>.step (.stops (.load rfl rfl))
    |>.step (.stops (.load rfl rfl))
    |>.step (.stops (.load rfl rfl))
    |>.step (.stops (.load rfl rfl))
    |>.step (.stops (.load rfl rfl))
    |>.step (.stops (.load rfl rfl))
    |>.step (.stops (.report rfl))

/-- An event may be reported as persisted before the push that brought it has got to its counter.
Then no push has been counted, so whatever number of events is taken as accepted and whatever number
as taken from the channel and not finished, either the counted pushes or the accepted events do not
come out. -/
theorem persisted_uncounted :
    ∃ (s : Session MemoryStore) (report : Report),
      Leads (start 1 .dropNewest 1 .new none) s ∧ s.stage = .stopped report ∧
      s.desk.phase = .finished ∧ report.timedOut = false ∧ report.counts.persisted = 1 ∧
      s.line.calls.countP Calls.isReturnedPush = 0 ∧
      ∀ accepted taken : Nat,
        ¬(s.line.calls.countP Calls.isReturnedPush
            = accepted + report.counts.dropped + report.counts.rejected ∧
          accepted = report.counts.persisted + report.counts.failed + report.counts.lost
            + taken) := by
  have leads := (leads_handedUncounted.trans (leads_finishedUncounted rfl)).trans
    (leads_reportedUncounted _)
  refine ⟨_, _, leads, rfl, rfl, rfl, rfl, rfl, ?_⟩
  rintro accepted taken ⟨counted, split⟩
  have none : 0 = accepted + 0 + 0 := counted
  have one : accepted = 1 + 0 + 0 + taken := split
  omega

end Session

end CausalTrace
