import CausalTrace.Proofs.Pipeline.Serving

/-!
# Draining a channel

A writer that is left to finish writes every accepted event, in the order of acceptance, and closes
the store.  What its store then holds are the records of these events, numbered from one on.  Once
the channel has ended, the writer needs at most six sections for each event that waits and seven
besides, and it can run the next one until it has closed the store.
-/

namespace CausalTrace

namespace Session

open Channel (Calls Fate)

variable {σ : Type} {capacity attempts : Nat} {s after : Session σ}
  {holds : σ → List Batch → Prop} {fits : Batch → Prop}

/-! ## How much the writer has still to do -/

/-- How many sections a receive and what follows it take at most, besides those for the events that
wait in the channel. -/
def receiveToGo : Channel.ReceiveStage Event → Nat
  | .looking | .waiting => 2
  | .counting _ => 7
  | .received _ => 6
  | .timedOut => 4
  | .closed => 1

/-- The same for a desk that asks for nothing. -/
def deskToGo : DeskPhase → Nat
  | .idle => 3
  | .committing _ _ => 5
  | .counting _ _ => 4
  | .finished | .died => 0

/-- The same wherever the writer is. -/
def writerToGo (s : Session σ) : Nat :=
  match s.asking with
  | some place =>
    match s.line.calls[place]? with
    | some (.receive stage) => receiveToGo stage
    | _ => 0
  | none => deskToGo s.desk.phase

/-- How many sections the writer needs at most to finish, once the channel has ended. -/
def toGo (s : Session σ) : Nat := 6 * s.line.channel.queue.length + s.writerToGo

/-- What is left to do is bounded by what waits in the channel. -/
theorem toGo_le (s : Session σ) : s.toGo ≤ 6 * s.line.channel.queue.length + 7 := by
  have pace : s.writerToGo ≤ 7 := by
    unfold writerToGo
    split
    · split
      next stage _ => cases stage <;> simp [receiveToGo]
      next => exact Nat.zero_le _
    · cases s.desk.phase <;> simp [deskToGo]
  rw [toGo]
  omega

/-- While the writer asks, what is left depends on its receive. -/
theorem writerToGo_asking {place : Nat} {stage : Channel.ReceiveStage Event}
    (asked : s.asking = some place) (here : s.line.calls[place]? = some (.receive stage)) :
    s.writerToGo = receiveToGo stage := by
  simp only [writerToGo, asked, here]

/-- While the writer asks for nothing, what is left depends on its desk. -/
theorem writerToGo_free (free : s.asking = none) : s.writerToGo = deskToGo s.desk.phase := by
  simp only [writerToGo, free]

/-- A section that leaves the queue alone brings the writer closer if it does so by itself. -/
theorem toGo_lt_of_pace (queue : after.line.channel.queue = s.line.channel.queue)
    {before behind : Nat} (now : s.writerToGo = before) (later : after.writerToGo = behind)
    (closer : behind < before) : after.toGo < s.toGo := by
  rw [toGo, toGo, queue, now, later]
  omega

/-- A section of the writer's receive brings it closer to the end. -/
theorem receive_toGo_lt {place : Nat} {line : Calls Event} (books : Books capacity s)
    (asked : s.asking = some place) (closed : s.line.channel.closed = true)
    (advanced : s.line.Advances place line) : (s.onLine line).toGo < s.toGo := by
  obtain ⟨-, stage, here⟩ := books.asking place asked
  obtain ⟨known, -⟩ := List.getElem?_eq_some_iff.1 here
  have asks : (s.onLine line).asking = some place := asked
  have now := writerToGo_asking asked here
  -- On a channel that has ended a receive finds an item or the end, and is not left waiting.
  cases advanced.effect with
  | taken looks pending next =>
    rw [here] at looks
    cases looks
    have pace : receiveToGo stage = 2 := by rcases pending with rfl | rfl <;> rfl
    have later := writerToGo_asking asks (List.getElem?_set_self known)
    rw [toGo, toGo, later, now, pace, next, List.length_cons]
    -- An item that leaves the queue pays for all that is done with it.
    show 6 * List.length _ + 7 < 6 * (List.length _ + 1) + 2
    dsimp only [onLine, Calls.turn]
    omega
  | ended looks pending _ empty =>
    rw [here] at looks
    cases looks
    have pace : receiveToGo stage = 2 := by rcases pending with rfl | rfl <;> rfl
    exact toGo_lt_of_pace rfl (now.trans pace)
      (writerToGo_asking asks (List.getElem?_set_self known)) (Nat.lt_succ_self _)
  | receiveCounted counts =>
    rw [here] at counts
    cases counts
    exact toGo_lt_of_pace rfl now (writerToGo_asking asks (List.getElem?_set_self known))
      (Nat.lt_succ_self _)
  | receiveWaits _ _ goesOn | timedOut _ _ goesOn =>
    rw [closed] at goesOn
    cases goesOn
  | rejected other | dropped other | pushWaits other | accepted other | pushCounted other
  | closed other | cleared other | discardCounted other =>
    rw [here] at other
    cases other

/-- A call of another party leaves the writer where it is, and brings nothing into a channel
that has ended. -/
theorem toGo_onLine_le (books : Books capacity s) (closed : s.line.channel.closed = true)
    {place : Nat} {call : Channel.Call Event} {line : Calls Event}
    (here : s.line.calls[place]? = some call) (other : ∀ stage, call ≠ .receive stage)
    (advanced : s.line.Advances place line) : (s.onLine line).toGo ≤ s.toGo := by
  have queue : line.channel.queue.length ≤ s.line.channel.queue.length := by
    cases advanced.effect with
    | accepted _ _ goesOn =>
      rw [closed] at goesOn
      cases goesOn
    | taken _ _ next =>
      rw [next]
      exact Nat.le_succ _
    | cleared => exact Nat.zero_le _
    | _ => exact Nat.le_refl _
  have pace : (s.onLine line).writerToGo = s.writerToGo := by
    cases asked : s.asking with
    | none =>
      rw [writerToGo_free asked]
      exact writerToGo_free asked
    | some asks =>
      obtain ⟨-, stage, receive⟩ := books.asking asks asked
      obtain ⟨old, new, -, -, calls⟩ := advanced.effect.turned
      have elsewhere : place ≠ asks := by
        rintro rfl
        rw [here] at receive
        exact other stage (Option.some.inj receive)
      rw [writerToGo_asking asked receive]
      exact writerToGo_asking asked (by rw [onLine, calls, List.getElem?_set_ne elsewhere, receive])
  have queue : (s.onLine line).line.channel.queue.length ≤ s.line.channel.queue.length := queue
  rw [toGo, toGo, pace]
  omega

/-- A capture that begins gives the writer no more to do. -/
theorem toGo_begin (books : Books capacity s) (call : Channel.Call Event) :
    (s.onLine (s.line.begin call)).toGo = s.toGo := by
  have pace : (s.onLine (s.line.begin call)).writerToGo = s.writerToGo := by
    cases asked : s.asking with
    | none =>
      rw [writerToGo_free asked]
      exact writerToGo_free asked
    | some asks =>
      obtain ⟨-, stage, receive⟩ := books.asking asks asked
      obtain ⟨known, -⟩ := List.getElem?_eq_some_iff.1 receive
      rw [writerToGo_asking asked receive]
      exact writerToGo_asking asked ((List.getElem?_append_left known).trans receive)
  rw [toGo, toGo, pace]
  rfl

/-- Once the channel has ended the other parties give the writer nothing more to do. -/
theorem Kept.toGo_le (kept : Kept capacity s) (closed : s.line.channel.closed = true)
    (others : s.Captures after ∨ s.Stops after) : after.toGo ≤ s.toGo := by
  rcases others with captures | stops
  · cases captures with
    | begin event => exact Nat.le_of_eq (toGo_begin kept.books _)
    | push place here advanced => exact toGo_onLine_le kept.books closed here nofun advanced
    | misread => exact Nat.le_refl _
  · have stands := kept.stands
    cases stops with
    | stop | giveUp => exact Nat.le_of_eq (toGo_begin kept.books _)
    | close here advanced =>
      rw [here] at stands
      obtain ⟨-, waiting, close, -⟩ := stands
      exact toGo_onLine_le kept.books closed close nofun advanced
    | discard here advanced =>
      rw [here] at stands
      obtain ⟨-, -, stage, discard, -⟩ := stands
      exact toGo_onLine_le kept.books closed discard nofun advanced
    | drain | inTime | tally | leave | look | load | report => exact Nat.le_refl _

section Progress

variable [Store σ]

/-- Every section of the writer brings it closer to the end. -/
theorem Serving.toGo_lt (serving : Serving holds attempts s) (serves : Serves holds fits)
    (books : Books capacity s) {events : List Event}
    (within : s.ledger.map Prod.fst ++ s.inHand <+: events)
    (allFit : ∀ batch ∈ (Writer.new 1).batches events, fits batch)
    (closed : s.line.channel.closed = true) (works : s.Works after) : after.toGo < s.toGo := by
  cases works with
  | ask idle free =>
    have now := writerToGo_free free
    rw [idle] at now
    exact toGo_lt_of_pace rfl now (writerToGo_asking rfl List.getElem?_concat_length)
      (Nat.lt_succ_self _)
  | receive asked advanced => exact receive_toGo_lt books asked closed advanced
  | given asked here | finish asked here =>
    exact toGo_lt_of_pace rfl (writerToGo_asking asked here) (writerToGo_free rfl)
      (Nat.lt_succ_self _)
  | askAgain asked here =>
    have later : writerToGo { s with asking := none } = deskToGo s.desk.phase := writerToGo_free rfl
    rw [(books.asking _ asked).1] at later
    exact toGo_lt_of_pace rfl (writerToGo_asking asked here) later (Nat.lt_succ_self _)
  | @attempt event left work phase attempted =>
    obtain ⟨store, settled, -⟩ := serving.attempt serves books within allFit phase
    rw [settled] at attempted
    cases attempted
    have free := books.asks_nothing (by rw [phase]; nofun)
    have now := writerToGo_free free
    rw [phase] at now
    exact toGo_lt_of_pace rfl now (writerToGo_free free) (Nat.lt_succ_self _)
  | count phase =>
    have free := books.asks_nothing (by rw [phase]; nofun)
    have now := writerToGo_free free
    rw [phase] at now
    exact toGo_lt_of_pace rfl now (writerToGo_free free) (Nat.lt_succ_self _)

/-- A writer that has not closed the store has a section to run. -/
theorem Serving.goes_on (serving : Serving holds attempts s) (serves : Serves holds fits)
    (books : Books capacity s) {events : List Event}
    (within : s.ledger.map Prod.fst ++ s.inHand <+: events)
    (allFit : ∀ batch ∈ (Writer.new 1).batches events, fits batch)
    (unfinished : s.desk.phase ≠ .finished) : ∃ after, s.Works after := by
  cases asked : s.asking with
  | some place =>
    obtain ⟨-, stage, here⟩ := books.asking place asked
    cases stage with
    | looking => exact ⟨_, .receive asked (.look here)⟩
    | waiting => exact ⟨_, .receive asked (.lookAgain false here)⟩
    | counting item => exact ⟨_, .receive asked (.countReceived here)⟩
    | received item => exact ⟨_, .given asked here⟩
    | closed => exact ⟨_, .finish asked here⟩
    | timedOut => exact ⟨_, .askAgain asked here⟩
  | none =>
    cases phase : s.desk.phase with
    | idle => exact ⟨_, .ask phase asked⟩
    | committing event left =>
      obtain ⟨store, settled, -⟩ := serving.attempt serves books within allFit phase
      exact ⟨_, .attempt phase settled⟩
    | counting event settlement => exact ⟨_, .count phase⟩
    | finished => exact absurd phase unfinished
    | died =>
      have held := serving.store
      rw [phase] at held
      exact held.elim

/-- A run in which the writer has so many sections. -/
inductive Goes (first : Session σ) : Nat → Session σ → Prop where
  | here : Goes first 0 first
  | works {count s after} (prior : Goes first count s) (works : s.Works after) :
      Goes first (count + 1) after
  | others {count s after} (prior : Goes first count s)
      (others : s.Captures after ∨ s.Stops after) : Goes first count after

/-- What others do is a step of the session. -/
theorem step_of_others (others : s.Captures after ∨ s.Stops after) : Step s after :=
  others.elim .captures .stops

/-- A run that counts the writer's sections is a run. -/
theorem Goes.leads {first : Session σ} {count : Nat} (goes : Goes first count s) :
    Leads first s := by
  induction goes with
  | here => exact .here
  | works _ works ih => exact ih.step (.works works)
  | others _ others ih => exact ih.step (step_of_others others)

/-- However the others go on, the writer has only so many sections left, and it runs one after the
other until it has closed the store. -/
def ComesToEnd (s : Session σ) : Prop :=
  ∀ count later, Goes s count later → later.givenUp = 0 →
    count ≤ 6 * s.line.channel.queue.length + 7 ∧
      (later.desk.phase = .finished ∨ ∃ after, later.Works after)

/-- However a run goes on after the channel was closed, the writer comes to its end. -/
theorem Leads.comesToEnd {policy : Backpressure} {store : σ} {directory : Option String}
    (leads : Leads (start capacity policy attempts store directory) s)
    (serves : Serves holds fits) (opened : holds store [])
    (closed : s.line.channel.closed = true)
    (allFit : ∀ batch ∈ (Writer.new 1).batches (s.line.accepted.map Prod.snd), fits batch) :
    s.ComesToEnd := by
  have fresh := kept_start capacity policy attempts store directory
  -- What the writer relies on in every state from here on.
  have relies : ∀ {later}, Leads s later → later.givenUp = 0 →
      Serving holds attempts later ∧ Books capacity later ∧
        later.ledger.map Prod.fst ++ later.inHand <+: s.line.accepted.map Prod.snd := by
    intro later further whole
    have same := (further.line.closed_of_closed closed).2
    have serving := (leads.trans further).serving serves opened (same ▸ List.prefix_refl _) allFit
      whole
    have books := ((leads.trans further).kept fresh).books
    refine ⟨serving, books, ?_⟩
    rw [books.taken_first serving.survived whole, same]
    exact List.take_prefix _ _
  have bound : ∀ {count later}, Goes s count later → later.givenUp = 0 →
      count + later.toGo ≤ s.toGo := by
    intro count later goes whole
    induction goes with
    | here => exact Nat.le_of_eq (Nat.zero_add _)
    | @works count between after prior works ih =>
      have earlier := Leads.givenUp_eq_zero (Leads.here.step (.works works)) whole
      obtain ⟨serving, books, within⟩ := relies prior.leads earlier
      have closer := serving.toGo_lt serves books within allFit
        (prior.leads.line.closed_of_closed closed).1 works
      have before := ih earlier
      omega
    | @others count between after prior others ih =>
      have earlier := Leads.givenUp_eq_zero (Leads.here.step (step_of_others others)) whole
      have kept := (leads.trans prior.leads).kept fresh
      have nothing := kept.toGo_le (prior.leads.line.closed_of_closed closed).1 others
      have before := ih earlier
      omega
  intro count later goes whole
  have enough := bound goes whole
  have most := s.toGo_le
  obtain ⟨serving, books, within⟩ := relies goes.leads whole
  refine ⟨by omega, ?_⟩
  by_cases finished : later.desk.phase = .finished
  · exact .inl finished
  · exact .inr (serving.goes_on serves books within allFit finished)

/-- A writer that is left alone at a channel that has ended closes its store. -/
theorem Leads.finishes {policy : Backpressure} {store : σ} {directory : Option String}
    (leads : Leads (start capacity policy attempts store directory) s) (ends : s.ComesToEnd)
    (whole : s.givenUp = 0) :
    ∃ last, Leads s last ∧ last.givenUp = 0 ∧ last.desk.phase = .finished := by
  -- The induction is on how many sections the writer has left.
  have onward : ∀ left count later, Goes s count later → later.givenUp = 0 →
      6 * s.line.channel.queue.length + 7 < count + left →
      ∃ last, Leads s last ∧ last.givenUp = 0 ∧ last.desk.phase = .finished := by
    intro left
    induction left with
    | zero =>
      intro count later goes whole enough
      have most := (ends count later goes whole).1
      omega
    | succ left ih =>
      intro count later goes whole enough
      obtain ⟨-, finished | ⟨after, works⟩⟩ := ends count later goes whole
      · exact ⟨later, goes.leads, whole, finished⟩
      · have books := ((leads.trans goes.leads).kept (kept_start ..)).books
        have same : after.givenUp = later.givenUp :=
          congrArg List.length (works.spares books).givenUp
        exact ih (count + 1) after (goes.works works) (same.trans whole) (by omega)
  exact onward (6 * s.line.channel.queue.length + 8) 0 s .here whole (by omega)

/-- What a writer that has finished has done, when nothing was given up. -/
theorem Leads.finished {policy : Backpressure} {store : σ} {directory : Option String}
    (leads : Leads (start capacity policy attempts store directory) s)
    (serves : Serves holds fits) (opened : holds store [])
    (allFit : ∀ batch ∈ (Writer.new 1).batches (s.line.accepted.map Prod.snd), fits batch)
    (whole : s.givenUp = 0) (finished : s.desk.phase = .finished) :
    s.desk.summary
        = ⟨s.line.accepted.length, 0, lastNumber s.line.accepted.length, none⟩ ∧
      s.stats.persisted = s.line.accepted.length ∧ s.stats.failed = 0 ∧
      ∃ last, holds last ((Writer.new attempts).batches (s.line.accepted.map Prod.snd)) ∧
        s.store = (Store.close last).2 := by
  have books := (leads.kept (kept_start ..)).books
  have serving := leads.serving serves opened (List.prefix_refl _) allFit whole
  have all := books.account.length_queue
  rw [books.ended finished] at all
  have events : s.ledger.map Prod.fst = s.line.accepted.map Prod.snd := by
    have taken := books.taken_first serving.survived whole
    rw [books.inHand_finished finished, List.append_nil] at taken
    rw [taken, List.take_of_length_le (by rw [List.length_map, ← all]; exact Nat.le_refl _)]
  have count : s.ledger.length = s.line.accepted.length := by
    have lengths := congrArg List.length events
    rwa [List.length_map, List.length_map] at lengths
  have noFailure : tally s.ledger .failed = 0 := by
    rw [tally, List.count_eq_zero]
    intro known
    obtain ⟨entry, mem, same⟩ := List.mem_map.1 known
    rw [serving.stored entry mem] at same
    cases same
  have sum := (tally_survived books.survived).1
  have held := serving.store
  rw [finished, events] at held
  refine ⟨by rw [serving.summary, count], ?_, by rw [books.failed, noFailure], held⟩
  rw [books.persisted]
  omega

end Progress

/-! ## The close of the store -/

section Closing

variable [Store σ] {first : Session σ}

/-- The writer's receive has told it that the channel has ended. -/
def ToldOfEnd (s : Session σ) : Prop :=
  ∃ place, s.asking = some place ∧ s.line.calls[place]? = some (.receive .closed)

/-- After the section in which the writer closes the store. -/
def finish (s : Session σ) : Session σ := { s.worked s.work.finish with asking := none }

/-- The writer, told of the end, has closed the store once, and since then nothing has been done to
the store or at the desk. -/
def ClosedAtLast (first s : Session σ) : Prop :=
  ∃ before, Leads first before ∧ before.desk.phase = .idle ∧ before.ToldOfEnd ∧
    Leads before.finish s ∧ s.desk = before.finish.desk ∧ s.store = (Store.close before.store).2

/-- A writer that has finished is through with desk and store, and only the close of the store
makes it finish. -/
theorem Step.finished_cases (books : Books capacity s) (next : Step s after)
    (finished : after.desk.phase = .finished) :
    (s.desk.phase = .finished ∧ after.desk = s.desk ∧ after.store = s.store) ∨
      s.desk.phase = .idle ∧ s.ToldOfEnd ∧ after = s.finish := by
  rcases next with captures | works | stops
  · cases captures <;> exact .inl ⟨finished, rfl, rfl⟩
  · cases works with
    | finish asked here => exact .inr ⟨(books.asking _ asked).1, ⟨_, asked, here⟩, rfl⟩
    | attempt phase attempt => cases attempted attempt <;> cases finished
    | given | count => cases finished
    | ask | receive | askAgain => exact .inl ⟨finished, rfl, rfl⟩
  · cases stops <;> exact .inl ⟨finished, rfl, rfl⟩

/-- The last thing that a writer has done that has finished is that it closed the store. -/
theorem Leads.closedAtLast (leads : Leads first s) (fresh : Kept capacity first)
    (unfinished : first.desk.phase ≠ .finished) (finished : s.desk.phase = .finished) :
    ClosedAtLast first s := by
  induction leads with
  | here => exact absurd finished unfinished
  | @step s after prior next ih =>
    rcases next.finished_cases (prior.kept fresh).books finished with
      ⟨already, desk, store⟩ | ⟨idle, told, rfl⟩
    · obtain ⟨before, reached, idle, told, since, sameDesk, closed⟩ := ih already
      exact ⟨before, reached, idle, told, since.step next, desk.trans sameDesk,
        store.trans closed⟩
    · exact ⟨s, prior, idle, told, .here, rfl, rfl⟩

end Closing

/-! ## What is read back -/

/-- A finished writer's events are read back whole, from contents of its store. -/
structure ReadBack (s : Session σ) (contents : Contents) : Prop where
  records : Inspect.records contents = .ok (Record.numbered (s.line.accepted.map Prod.snd))
  count : Inspect.count contents = s.line.accepted.length
  summary : s.desk.summary
    = ⟨s.line.accepted.length, 0, lastNumber s.line.accepted.length, none⟩
  persisted : s.stats.persisted = s.line.accepted.length
  failed : s.stats.failed = 0

/-- As many records are counted as events were written. -/
theorem count_batches (attempts : Nat) {events : List Event} (fits : events.length < 2 ^ 64) :
    Inspect.count (Contents.empty.applyAll ((Writer.new attempts).batches events))
      = events.length := by
  rw [Inspect.count, Contents.count, (Writer.stores_batches attempts .empty fits).keys,
    List.length_append, List.length_map, Record.length_numbered]
  exact Nat.zero_add _

/-- What the batches of all accepted events store is read back whole. -/
theorem readBack_batches (numbered : s.line.accepted.length < 2 ^ 64)
    (summary : s.desk.summary
      = ⟨s.line.accepted.length, 0, lastNumber s.line.accepted.length, none⟩)
    (persisted : s.stats.persisted = s.line.accepted.length) (failed : s.stats.failed = 0) :
    s.ReadBack (Contents.empty.applyAll
      ((Writer.new attempts).batches (s.line.accepted.map Prod.snd))) := by
  have fewer : (s.line.accepted.map Prod.snd).length < 2 ^ 64 := by rwa [List.length_map]
  refine ⟨(Writer.traces_batches attempts fewer).records, ?_, summary, persisted, failed⟩
  rw [count_batches attempts fewer, List.length_map]

/-- Whatever the timing of pushes, receives and time-outs, once its channel has ended the writer
comes to an end, and then its store is closed and gives back exactly the accepted events, numbered
from one on in the order of acceptance.  This holds of a store in memory and of a log in a directory
where nothing was. -/
theorem reads_back_drained (capacity : Nat) (policy : Backpressure) (attempts : Nat) :
    (∀ {s : Session MemoryStore}, Leads (start capacity policy attempts .new none) s →
      s.givenUp = 0 → s.line.accepted.length < 2 ^ 64 →
        (s.line.channel.closed = true → s.ComesToEnd) ∧
        (s.desk.phase = .finished → s.ReadBack s.store.contents ∧ s.store.closes = 1)) ∧
    ∀ {tree opened : FileTree} {directory : String} {sync : SyncMode} {store : LogStore}
      {s : Session (LogStore × FileTree)},
      LogStore.openIn tree directory sync = (.ok store, opened) → tree.content store.file = [] →
      Leads (start capacity policy attempts (store, opened) (some directory)) s →
      s.givenUp = 0 → s.line.accepted.length < 2 ^ 64 →
      (∀ batch ∈ (Writer.new 1).batches (s.line.accepted.map Prod.snd),
        ∃ frame, Frame.encode batch = .ok frame) →
        (s.line.channel.closed = true → s.ComesToEnd) ∧
        (s.desk.phase = .finished →
          (∃ snapshot, LogSnapshot.read s.store.2 directory = .ok snapshot ∧
            s.ReadBack snapshot.contents) ∧
          ClosedAtLast (start capacity policy attempts (store, opened) (some directory)) s) := by
  refine ⟨fun leads whole numbered => ?_, fun started fresh leads whole numbered encodes => ?_⟩
  · have opened : MemoryStore.HoldsAll .new [] := ⟨rfl, rfl⟩
    refine ⟨fun closed => leads.comesToEnd MemoryStore.serves opened closed fun _ _ => trivial,
      fun finished => ?_⟩
    obtain ⟨summary, persisted, failed, last, ⟨notClosed, contents⟩, closed⟩ :=
      leads.finished MemoryStore.serves opened (fun _ _ => trivial) whole finished
    rw [closed]
    refine ⟨?_, congrArg (· + 1) notClosed⟩
    show ReadBack _ last.contents
    rw [contents]
    exact readBack_batches numbered summary persisted failed
  · have opened := LogStore.holdsAll_openIn started fresh
    have allFit := fun batch known =>
      And.intro (Writer.batch_ne_nil_of_mem known) (encodes batch known)
    refine ⟨fun closed => leads.comesToEnd (LogStore.serves _) opened closed allFit,
      fun finished => ?_⟩
    obtain ⟨summary, persisted, failed, last, keeps, closed⟩ :=
      leads.finished (LogStore.serves _) opened allFit whole finished
    have same : _ = last := closed
    rw [same]
    exact ⟨⟨_, keeps.read, readBack_batches numbered summary persisted failed⟩,
      leads.closedAtLast (kept_start ..) nofun finished⟩

section Repeated

open Writer (sentFirst receivedNext sentAgain repeatedId)

/-- A session in which the writer has asked in vain, and then an event was accepted. -/
def oneAccepted (store : σ) (directory : Option String) : Session σ where
  line :=
    ⟨⟨3, .dropNewest, [sentFirst], false, ⟨1, 0, 0, 0, 0⟩⟩,
      [.receive .timedOut, .push sentFirst .accepted], [(1, sentFirst)], []⟩
  desk := .new 1
  asking := none
  stats := .zero
  store := store
  directory := directory
  stage := .running
  ledger := []

/-- The same when two more were accepted and the channel was closed.  In between the writer has
taken the first event. -/
def threeAccepted (store : σ) (directory : Option String) : Session σ :=
  { oneAccepted store directory with
    line :=
      ⟨⟨3, .dropNewest, [receivedNext, sentAgain], true, ⟨3, 0, 0, 0, 0⟩⟩,
        [.receive .timedOut, .push sentFirst .accepted, .push receivedNext .accepted,
          .receive (.counting sentFirst), .push sentAgain .accepted, .close (some 2)],
        [(1, sentFirst), (2, receivedNext), (4, sentAgain)], [.received 3]⟩
    asking := some 3
    stage := .closing 5 }

/-- The writer asks in vain before the first event is accepted. -/
theorem leads_oneAccepted [Store σ] (store : σ) (directory : Option String) :
    Leads (start 3 .dropNewest 1 store directory) (oneAccepted store directory) :=
  (Leads.here : Leads (start 3 .dropNewest 1 store directory) _)
    |>.step (.works (.ask rfl rfl))
    |>.step (.works (.receive rfl (.look rfl)))
    |>.step (.works (.receive rfl (.lookAgain true rfl)))
    |>.step (.works (.askAgain rfl rfl))
    |>.step (.captures (.begin sentFirst))
    |>.step (.captures (.push 1 rfl (.enter rfl)))
    |>.step (.captures (.push 1 rfl (.countPushed rfl)))

/-- Two more are accepted while the first is being committed, then the channel is closed. -/
theorem leads_threeAccepted [Store σ] (store : σ) (directory : Option String) :
    Leads (oneAccepted store directory) (threeAccepted store directory) :=
  (Leads.here : Leads (oneAccepted store directory) _)
    |>.step (.captures (.begin receivedNext))
    |>.step (.captures (.push 2 rfl (.enter rfl)))
    |>.step (.works (.ask rfl rfl))
    |>.step (.works (.receive rfl (.look rfl)))
    |>.step (.captures (.begin sentAgain))
    |>.step (.captures (.push 4 rfl (.enter rfl)))
    |>.step (.captures (.push 2 rfl (.countPushed rfl)))
    |>.step (.captures (.push 4 rfl (.countPushed rfl)))
    |>.step (.stops (.stop rfl))
    |>.step (.stops (.close rfl (.close rfl)))

/-- Three events, two of them with one message id, written to a store in memory and to a log. -/
theorem reads_back_drained_repeatedId :
    (∃ accepted s : Session MemoryStore,
      Leads (start 3 .dropNewest 1 .new none) accepted ∧ accepted.ComesToEnd ∧
      Leads accepted s ∧ s.line.accepted.map Prod.snd = repeatedId ∧
      s.ReadBack s.store.contents ∧ s.store.closes = 1) ∧
    ∃ store opened, LogStore.openIn .empty "d" .onClose = (.ok store, opened) ∧
      ∃ accepted s : Session (LogStore × FileTree),
        Leads (start 3 .dropNewest 1 (store, opened) (some "d")) accepted ∧ accepted.ComesToEnd ∧
        Leads accepted s ∧ s.line.accepted.map Prod.snd = repeatedId ∧
        (∃ snapshot, LogSnapshot.read s.store.2 "d" = .ok snapshot ∧
          s.ReadBack snapshot.contents) ∧
        ClosedAtLast (start 3 .dropNewest 1 (store, opened) (some "d")) s := by
  have fewer : 3 < 2 ^ 64 := by decide
  constructor
  · have leads := (leads_oneAccepted MemoryStore.new none).trans (leads_threeAccepted _ _)
    have ends := ((reads_back_drained 3 .dropNewest 1).1 leads rfl fewer).1 rfl
    obtain ⟨s, further, whole, finished⟩ := leads.finishes ends rfl
    have same := (further.line.closed_of_closed rfl).2
    have reads := ((reads_back_drained 3 .dropNewest 1).1 (leads.trans further) whole
      (same ▸ fewer)).2 finished
    exact ⟨_, s, leads, ends, further, congrArg (List.map Prod.snd) same, reads⟩
  · obtain ⟨store, opened, started, fresh⟩ : ∃ store opened,
        LogStore.openIn .empty "d" .onClose = (.ok store, opened) ∧
          FileTree.empty.content store.file = [] := ⟨_, _, rfl, rfl⟩
    have leads := (leads_oneAccepted (store, opened) (some "d")).trans (leads_threeAccepted _ _)
    have ends := ((reads_back_drained 3 .dropNewest 1).2 started fresh leads rfl fewer
      Writer.encodes_repeatedId).1 rfl
    obtain ⟨s, further, whole, finished⟩ := leads.finishes ends rfl
    have same := (further.line.closed_of_closed rfl).2
    have reads := ((reads_back_drained 3 .dropNewest 1).2 started fresh (leads.trans further) whole
      (same ▸ fewer) (same ▸ Writer.encodes_repeatedId)).2 finished
    exact ⟨store, opened, started, _, s, leads, ends, further, congrArg (List.map Prod.snd) same,
      reads⟩

end Repeated

end Session

end CausalTrace
