import CausalTrace.Proofs.Pipeline.Shutdown
import CausalTrace.Proofs.Writing.Crash

/-!
# A writer that is served

A store whose commits succeed takes the batch of every event that its writer hands over.  As long as
no event is given up, the writer has then stored the first of the accepted events, in the order of
acceptance, and its summary says so.  This holds between any two sections of a session, of a store
in memory and of a log all of whose batches fit into frames.
-/

namespace CausalTrace

/-! ## Stores whose commits succeed -/

/-- A store that holds batches takes every further one that fits, at once. -/
structure Serves {σ : Type} [Store σ] (holds : σ → List Batch → Prop) (fits : Batch → Prop) :
    Prop where
  arrive : ∀ {store batches}, holds store batches → holds (Store.arrive store) batches
  ready : ∀ {store batches}, holds store batches → Store.holdsBack store = false
  commit : ∀ {store batches batch}, holds store batches → fits batch →
    ∃ after, Store.commit store batch = (.done, after) ∧ holds after (batches ++ [batch])
  close : ∀ store : σ, (Store.close store).1 = none

/-- A store in memory that is open and holds batches, applied to nothing. -/
def MemoryStore.HoldsAll (store : MemoryStore) (batches : List Batch) : Prop :=
  store.closes = 0 ∧ store.contents = Contents.empty.applyAll batches

/-- An open store in memory takes every batch. -/
theorem MemoryStore.serves : Serves MemoryStore.HoldsAll fun _ => True where
  arrive := id
  ready _ := rfl
  commit {store batches batch} holds _ := by
    obtain ⟨opened, contents⟩ := holds
    refine ⟨⟨store.contents.apply batch, store.commits + 1, 0⟩, ?_, rfl, ?_⟩
    · show (CommitAnswer.ofExcept (store.commit batch).1, (store.commit batch).2) = _
      rw [commit_open opened]
      rfl
    · show store.contents.apply batch = _
      rw [contents, Contents.applyAll, Contents.applyAll, List.foldl_append]
      rfl
  close _ := rfl

/-- A log takes every batch that is not empty and fits into a frame. -/
theorem LogStore.serves (directory : String) :
    Serves (LogStore.HoldsAll directory)
      fun batch => batch ≠ [] ∧ ∃ frame, Frame.encode batch = .ok frame where
  arrive := id
  ready _ := rfl
  commit {disk batches batch} holds fits := by
    obtain ⟨filled, frame, encoded⟩ := fits
    obtain ⟨committed, further⟩ := holds.commit filled encoded
    refine ⟨disk.1.append disk.2 frame, ?_, further⟩
    show (CommitAnswer.ofExcept (disk.1.commit disk.2 batch).1, (disk.1.commit disk.2 batch).2) = _
    rw [committed]
    rfl
  close _ := rfl

/-- A writer makes no empty batch. -/
theorem Writer.batch_ne_nil_of_mem {writer : Writer} {events : List Event} {batch : Batch}
    (known : batch ∈ writer.batches events) : batch ≠ [] := by
  induction events generalizing writer with
  | nil => cases known
  | cons event rest ih =>
    rcases List.mem_cons.1 known with rfl | later
    · exact List.cons_ne_nil _ _
    · exact ih later

namespace Session

open Channel (Calls Fate)

variable {σ : Type} {capacity attempts : Nat} {s after : Session σ}
  {holds : σ → List Batch → Prop} {fits : Batch → Prop}

/-! ## The writer at a store that serves it -/

/-- The number of the last of so many records. -/
def lastNumber (count : Nat) : Option RecordId :=
  if count = 0 then none else some (UInt64.ofNat count)

/-- What the store holds while the desk is in a phase, when so many events have been counted. -/
def HeldAt [Store σ] (holds : σ → List Batch → Prop) (attempts : Nat) (counted : List Event)
    (store : σ) : DeskPhase → Prop
  | .idle | .committing _ _ => holds store ((Writer.new attempts).batches counted)
  | .counting event settlement =>
    settlement = .stored ∧ holds store ((Writer.new attempts).batches (counted ++ [event]))
  | .finished => ∃ last, holds last ((Writer.new attempts).batches counted) ∧
      store = (Store.close last).2
  | .died => False

/-- Every event that was counted has been stored. -/
structure Serving [Store σ] (holds : σ → List Batch → Prop) (attempts : Nat) (s : Session σ) :
    Prop where
  writer : s.desk.writer = (Writer.new attempts).acknowledgedAll (s.ledger.map Prod.fst)
  stored : ∀ entry ∈ s.ledger, entry.2 = .stored
  summary : s.desk.summary = ⟨s.ledger.length, 0, lastNumber s.ledger.length, none⟩
  store : HeldAt holds attempts (s.ledger.map Prod.fst) s.store s.desk.phase

/-- Of the events that a writer takes in order, the batch of each fits. -/
theorem fits_next (attempts : Nat) {events counted : List Event} {event : Event}
    (within : counted ++ [event] <+: events)
    (allFit : ∀ batch ∈ (Writer.new 1).batches events, fits batch) :
    fits (((Writer.new attempts).acknowledgedAll counted).batch event) := by
  obtain ⟨rest, rfl⟩ := within
  refine allFit _ ?_
  rw [← Writer.batches_new attempts]
  have first : (Writer.new attempts).batches (counted ++ [event])
      = ((Writer.new attempts).batches (counted ++ [event] ++ rest)).take
        (counted ++ [event]).length := by
    rw [Writer.batches_take, List.take_left]
  refine List.mem_of_mem_take (i := (counted ++ [event]).length) ?_
  rw [← first, Writer.batches_concat]
  exact List.mem_append_right _ (.head _)

section Serving

variable [Store σ]

/-- The first attempt to commit succeeds. -/
theorem Serving.attempt (serving : Serving holds attempts s) (serves : Serves holds fits)
    (books : Books capacity s) {events : List Event}
    (within : s.ledger.map Prod.fst ++ s.inHand <+: events)
    (allFit : ∀ batch ∈ (Writer.new 1).batches events, fits batch) {event : Event} {left : Nat}
    (phase : s.desk.phase = .committing event left) :
    ∃ store, s.work.attempt event left = some { s.work with
        store := store, desk := { s.desk with phase := .counting event .stored } } ∧
      holds store ((Writer.new attempts).batches (s.ledger.map Prod.fst ++ [event])) := by
  have held := serving.store
  rw [phase] at held
  have busy : s.desk.phase ≠ .idle := by
    rw [phase]
    nofun
  rw [inHand, books.asks_nothing busy, phase] at within
  have fitting := fits_next attempts within allFit
  rw [← serving.writer] at fitting
  obtain ⟨store, committed, further⟩ := serves.commit held fitting
  refine ⟨store, Workplace.attempt_done (serves.ready held) committed, ?_⟩
  rw [Writer.batches_concat, ← serving.writer]
  exact further

/-- The writer goes on having stored whatever it has counted. -/
theorem Serving.works (serving : Serving holds attempts s) (serves : Serves holds fits)
    (books : Books capacity s) {events : List Event}
    (within : s.ledger.map Prod.fst ++ s.inHand <+: events)
    (allFit : ∀ batch ∈ (Writer.new 1).batches events, fits batch) (works : s.Works after) :
    Serving holds attempts after := by
  have held := serving.store
  cases works with
  | ask | receive | askAgain => exact ⟨serving.writer, serving.stored, serving.summary, held⟩
  | given asked =>
    rw [(books.asking _ asked).1] at held
    exact ⟨serving.writer, serving.stored, serving.summary, serves.arrive held⟩
  | finish asked =>
    rw [(books.asking _ asked).1] at held
    refine ⟨serving.writer, serving.stored, ?_, s.store, held, rfl⟩
    show { s.desk.summary with closeFailure := (Store.close s.store).1 }
      = (⟨s.ledger.length, 0, lastNumber s.ledger.length, none⟩ : Summary)
    rw [serves.close, serving.summary]
  | @attempt event left work phase attempted =>
    obtain ⟨store, settled, further⟩ := serving.attempt serves books within allFit phase
    rw [settled] at attempted
    cases attempted
    exact ⟨serving.writer, serving.stored, serving.summary, rfl, further⟩
  | @count event settlement phase =>
    rw [phase] at held
    obtain ⟨rfl, held⟩ := held
    -- The number that is noted last is that of the event just counted.
    have next := Writer.next_acknowledgedAll attempts (s.ledger.map Prod.fst)
    rw [← serving.writer, List.length_map] at next
    have counted : (s.ledger ++ [(event, Settlement.stored)]).map Prod.fst
        = s.ledger.map Prod.fst ++ [event] := by
      rw [List.map_append, List.map_singleton]
    have length : (s.ledger ++ [(event, Settlement.stored)]).length = s.ledger.length + 1 :=
      List.length_append
    refine ⟨?_, fun entry known => ?_, ?_, ?_⟩
    · show s.desk.writer.acknowledged event = (Writer.new attempts).acknowledgedAll _
      rw [counted, Writer.acknowledgedAll_concat, ← serving.writer]
    · rcases List.mem_append.1 known with before | last
      · exact serving.stored entry before
      · rw [List.mem_singleton.1 last]
    · show { s.desk.summary with
          persisted := s.desk.summary.persisted + 1
          last := some s.desk.writer.next } = (⟨_, 0, lastNumber _, none⟩ : Summary)
      have last : lastNumber (s.ledger.length + 1) = some (UInt64.ofNat (s.ledger.length + 1)) :=
        if_neg (Nat.succ_ne_zero _)
      rw [length, serving.summary, next, last]
    · show holds s.store ((Writer.new attempts).batches _)
      rw [counted]
      exact held

/-- What captures and the one who stops do is nothing to the writer. -/
theorem Serving.others (serving : Serving holds attempts s)
    (others : s.Captures after ∨ s.Stops after) : Serving holds attempts after := by
  rcases others with captures | stops
  · cases captures <;>
      exact ⟨serving.writer, serving.stored, serving.summary, serving.store⟩
  · cases stops <;>
      exact ⟨serving.writer, serving.stored, serving.summary, serving.store⟩

omit [Store σ] in
/-- If nothing was given up, the writer has taken the first of the accepted events. -/
theorem Books.taken_first (books : Books capacity s) (survived : s.desk.phase ≠ .died)
    (whole : s.givenUp = 0) :
    s.ledger.map Prod.fst ++ s.inHand
      = (s.line.accepted.map Prod.snd).take s.line.fates.length := by
  rw [← books.receipts survived]
  exact books.account.receipts_eq_take (List.length_eq_zero_iff.1 whole)

/-- A store that takes every batch does not break the writer down. -/
theorem Serving.survived (serving : Serving holds attempts s) : s.desk.phase ≠ .died := by
  intro died
  have held := serving.store
  rw [died] at held
  exact held

/-- What was not given up in the end was not given up before. -/
theorem Leads.givenUp_eq_zero (further : Leads s after) (whole : after.givenUp = 0) :
    s.givenUp = 0 := by
  obtain ⟨-, fates⟩ := further.line.grows
  exact Nat.eq_zero_of_le_zero (whole ▸ (fates.filterMap Fate.discarder?).length_le)

/-- As long as nothing was given up, a store whose commits succeed serves its writer. -/
theorem Leads.serving {policy : Backpressure} {store : σ} {directory : Option String}
    (leads : Leads (start capacity policy attempts store directory) s)
    (serves : Serves holds fits) (opened : holds store []) {events : List Event}
    (accepted : s.line.accepted.map Prod.snd <+: events)
    (allFit : ∀ batch ∈ (Writer.new 1).batches events, fits batch) (whole : s.givenUp = 0) :
    Serving holds attempts s := by
  induction leads with
  | here => exact ⟨rfl, nofun, rfl, opened⟩
  | @step s after prior next ih =>
    have whole : s.givenUp = 0 := Leads.givenUp_eq_zero (Leads.here.step next) whole
    obtain ⟨more, -⟩ := next.line.grows
    have accepted : s.line.accepted.map Prod.snd <+: events := (more.map Prod.snd).trans accepted
    have serving := ih accepted whole
    have books := (prior.kept (kept_start ..)).books
    rcases next with captures | works | stops
    · exact serving.others (.inl captures)
    · refine serving.works serves books ?_ allFit works
      rw [books.taken_first serving.survived whole]
      exact (List.take_prefix _ _).trans accepted
    · exact serving.others (.inr stops)

end Serving

end Session

end CausalTrace
