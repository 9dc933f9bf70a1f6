import CausalTrace.Proofs.Pipeline.Shutdown
import CausalTrace.Proofs.Storage.Keeping
import CausalTrace.Proofs.Writing.Integrity

/-!
# The numbers of stored records

A session may have a store whose commits fail, and failed commits may have been applied.  Whatever
became of them, a record is stored under the place of its event among those that the writer
received, and the writer receives events in the order of their acceptance.  So of two stored records
the one with the smaller number was accepted first.  This holds between any two sections, and after
the writer has not survived a commit.
-/

namespace CausalTrace

/-- What stands in a list stands at the same place in every longer one. -/
theorem getElem?_of_prefix {α : Type} {first more : List α} (grows : first <+: more) {place : Nat}
    {item : α} (here : first[place]? = some item) : more[place]? = some item := by
  obtain ⟨known, rfl⟩ := List.getElem?_eq_some_iff.1 here
  exact List.prefix_iff_getElem?.1 grows place known

/-- Every stored record is that of an event, under the place of this event and counted from one. -/
def Record.Numbers (events : List Event) (contents : Contents) : Prop :=
  ∀ key value, contents.get? Record.partition key = some value → ∃ place event,
    events[place]? = some event ∧ key = RecordId.key (UInt64.ofNat (place + 1)) ∧
      value = (Record.ofEvent (UInt64.ofNat (place + 1)) event).encode

namespace Record

variable {events more : List Event} {contents : Contents}

/-- Nothing is stored under a number at first. -/
theorem numbers_empty : Numbers events .empty := nofun

/-- More events do not change the numbers of those before. -/
theorem Numbers.mono (numbers : Numbers events contents) (grows : events <+: more) :
    Numbers more contents := by
  intro key value found
  obtain ⟨place, event, here, same⟩ := numbers key value found
  exact ⟨place, event, getElem?_of_prefix grows here, same⟩

/-- The batch of an event stores its record, if the writer has come to its place. -/
theorem Numbers.apply (numbers : Numbers events contents) {writer : Writer} {place : Nat}
    {event : Event} (here : events[place]? = some event)
    (next : writer.next = UInt64.ofNat (place + 1)) :
    Numbers events (contents.apply (writer.batch event)) := by
  intro key value found
  rw [Writer.get?_apply_batch_record] at found
  split at found
  next same =>
    rw [Option.some.injEq] at found
    subst found
    refine ⟨place, event, here, ?_, ?_⟩
    · rw [← same, next]
    · rw [Writer.record, next]
  next => exact numbers key value found

end Record

namespace Writer

variable {σ : Type} [Store σ] [AtomicStore σ] [LastingStore σ]

/-- One more attempt applies a batch, or it is not acknowledged and still may have been applied. -/
theorem Attempted.commit {store after : σ} {contents : Contents} {batch : Batch}
    {answer : CommitAnswer} (attempted : Attempted store contents batch)
    (committed : Store.commit store batch = (answer, after)) :
    AtomicStore.Holds after (contents.apply batch) ∨
      answer ≠ .done ∧ Attempted after contents batch := by
  rcases attempted with before | applied
  · exact (LastingStore.commit_cases before committed).imp_right (And.imp_right .inl)
  · rcases LastingStore.commit_cases applied committed with again | ⟨-, kept⟩
    · exact .inl (Contents.apply_apply_self contents batch ▸ again)
    · exact .inl kept

end Writer

namespace Session

open Channel (Calls)
open AtomicStore

variable {σ : Type} {capacity : Nat} {s after : Session σ} {contents : Contents}

/-! ## Receipts -/

/-- A call that begins takes back no receipt. -/
theorem receipts_begins {line : Calls Event} {call : Channel.Call Event} (begins : call.Begins) :
    line.receipts <+: (line.begin call).receipts :=
  Calls.receipts_begin begins ▸ List.prefix_refl _

/-- A section adds a receipt at most. -/
theorem receipts_advances (account : Calls.Account capacity s.line) {place : Nat}
    {line : Calls Event} (advanced : s.line.Advances place line) :
    s.line.receipts <+: line.receipts := by
  rcases account.receipts_effect advanced.effect with ⟨same, -⟩ | ⟨_, _, -, -, -, taken⟩
  · exact same ▸ List.prefix_refl _
  · exact taken ▸ List.prefix_append _ _

/-- The event that the desk is at stands in its place among the receipts. -/
theorem Books.atDesk (books : Books capacity s) {event : Event}
    (phase : (∃ left, s.desk.phase = .committing event left) ∨
      ∃ settlement, s.desk.phase = .counting event settlement) :
    s.line.receipts[s.ledger.length]? = some event := by
  have receipts := books.receipts (by
    rcases phase with ⟨left, phase⟩ | ⟨settlement, phase⟩ <;> rw [phase] <;> nofun)
  have free := books.asks_nothing (by
    rcases phase with ⟨left, phase⟩ | ⟨settlement, phase⟩ <;> rw [phase] <;> nofun)
  have inHand : s.inHand = [event] := by
    unfold inHand
    rw [free]
    rcases phase with ⟨left, phase⟩ | ⟨settlement, phase⟩ <;> simp only [phase]
  rw [receipts, inHand, List.getElem?_append_right (by simp)]
  simp

section Stored

variable [Store σ] [AtomicStore σ]

/-! ## What a store holds while its desk is at work -/

/-- What the store of a session holds while its desk is in a phase, besides what it held
before the event in hand. -/
def StoredAt (s : Session σ) (contents : Contents) : DeskPhase → Prop
  | .idle | .finished => Holds s.store contents
  | .counting event .stored => Holds s.store (contents.apply (s.desk.writer.batch event))
  | .committing event _ | .counting event _ =>
    Writer.Attempted s.store contents (s.desk.writer.batch event)
  | .died => ∃ event, s.line.receipts[s.ledger.length]? = some event ∧
    Writer.Attempted s.store contents (s.desk.writer.batch event)

/-- Every event that was counted has been given a number, and all that is stored goes
by these numbers. -/
structure Numbered (s : Session σ) (contents : Contents) : Prop where
  next : s.desk.writer.next = UInt64.ofNat (s.ledger.length + 1)
  agrees : s.desk.writer.Agrees contents
  numbers : Record.Numbers s.line.receipts contents
  stored : s.StoredAt contents s.desk.phase

/-- Nothing is numbered in a new session. -/
theorem numbered_start (capacity : Nat) (policy : Backpressure) (attempts : Nat) {store : σ}
    (directory : Option String) (holds : Holds store .empty) :
    (start capacity policy attempts store directory).Numbered .empty where
  next := rfl
  agrees := .new rfl rfl
  numbers := Record.numbers_empty
  stored := holds

/-- The number of an event that was received is followed by another. -/
theorem Numbered.next_lt (numbered : s.Numbered contents) (books : Books capacity s)
    {event : Event} (here : s.line.receipts[s.ledger.length]? = some event)
    (fits : s.line.accepted.length + 1 < 2 ^ 64) :
    s.desk.writer.next < s.desk.writer.next + 1 := by
  obtain ⟨known, -⟩ := List.getElem?_eq_some_iff.1 here
  have received := books.account.inOrder.length_le
  rw [List.length_map] at received
  rw [numbered.next, UInt64.lt_iff_toNat_lt, UInt64.toNat_add, UInt64.toNat_one,
    UInt64.toNat_ofNat_of_lt' (by omega : s.ledger.length + 1 < 2 ^ 64)]
  omega

/-! ## What a section keeps -/

/-- What others do may add receipts and is nothing else to the desk. -/
theorem Numbered.others (numbered : s.Numbered contents) (desk : after.desk = s.desk)
    (store : after.store = s.store) (ledger : after.ledger = s.ledger)
    (receipts : s.line.receipts <+: after.line.receipts) : after.Numbered contents where
  next := by rw [desk, ledger, numbered.next]
  agrees := desk ▸ numbered.agrees
  numbers := numbered.numbers.mono receipts
  stored := by
    have stored := numbered.stored
    rw [desk]
    revert stored
    generalize s.desk.phase = phase
    intro stored
    cases phase with
    | idle | finished | committing => simpa only [StoredAt, desk, store] using stored
    | counting event settlement =>
      cases settlement <;> simpa only [StoredAt, desk, store] using stored
    | died =>
      obtain ⟨event, here, attempted⟩ := stored
      refine ⟨event, ?_, ?_⟩
      · rw [ledger]
        exact getElem?_of_prefix receipts here
      · rw [desk, store]
        exact attempted

/-- An attempt to commit settles the event or leaves it to a further attempt, and only an
acknowledged one is sure to have been applied. -/
theorem Numbered.attempt [LastingStore σ] (numbered : s.Numbered contents)
    (books : Books capacity s) {event : Event} {left : Nat} {work : Workplace σ}
    (phase : s.desk.phase = .committing event left)
    (attempted : s.work.attempt event left = some work) : (s.worked work).Numbered contents := by
  have here := books.atDesk (.inl ⟨_, phase⟩)
  have before := numbered.stored
  rw [phase] at before
  unfold Workplace.attempt at attempted
  split at attempted
  next => cases attempted
  next =>
    split at attempted
    next store committed =>
      cases attempted
      have applied := (Writer.Attempted.commit before committed).resolve_right fun other =>
        other.1 rfl
      exact ⟨numbered.next, numbered.agrees, numbered.numbers, applied⟩
    next store committed =>
      cases attempted
      have still := (Writer.Attempted.commit before committed).elim .inr And.right
      exact ⟨numbered.next, numbered.agrees, numbered.numbers, event, here, still⟩
    next failure store committed =>
      have still : Writer.Attempted store contents (s.desk.writer.batch event) :=
        (Writer.Attempted.commit before committed).elim .inr And.right
      split at attempted
      next =>
        cases attempted
        exact ⟨numbered.next, numbered.agrees, numbered.numbers, still⟩
      next =>
        cases attempted
        exact ⟨numbered.next, numbered.agrees, numbered.numbers,
          still.imp holdsArrive holdsArrive⟩

/-- An event that is counted uses its number up. -/
theorem Numbered.count (numbered : s.Numbered contents) (books : Books capacity s)
    (fits : s.line.accepted.length + 1 < 2 ^ 64) {event : Event} {settlement : Settlement}
    (phase : s.desk.phase = .counting event settlement) :
    ∃ contents, Numbered { s.worked (s.work.count event settlement) with
      ledger := s.ledger ++ [(event, settlement)] } contents := by
  have here := books.atDesk (.inr ⟨_, phase⟩)
  have following := numbered.next_lt books here fits
  have stored := numbered.stored
  have applied := numbered.numbers.apply here numbered.next
  have length : (s.ledger ++ [(event, settlement)]).length = s.ledger.length + 1 :=
    List.length_append
  have next (writer : Writer) (same : writer.next = s.desk.writer.next + 1) :
      writer.next = UInt64.ofNat ((s.ledger ++ [(event, settlement)]).length + 1) := by
    rw [same, numbered.next, length, UInt64.ofNat_add (s.ledger.length + 1) 1]
    rfl
  rw [phase] at stored
  cases settlement with
  | stored =>
    exact ⟨_, next _ rfl, numbered.agrees.acknowledged following, applied, stored⟩
  | abandoned failure =>
    rcases stored with kept | taken
    · exact ⟨contents, next _ rfl, numbered.agrees.passed following, numbered.numbers, kept⟩
    · exact ⟨_, next _ rfl, numbered.agrees.applied following, applied, taken⟩
  | lost => exact absurd phase (books.settled event)

/-- The writer keeps the numbers right, whatever section it runs. -/
theorem Numbered.works [LastingStore σ] (numbered : s.Numbered contents)
    (books : Books capacity s) (fits : s.line.accepted.length + 1 < 2 ^ 64)
    (works : s.Works after) : ∃ contents, after.Numbered contents := by
  have stored := numbered.stored
  cases works with
  | ask =>
    exact ⟨contents, numbered.others rfl rfl rfl (receipts_begins .receive)⟩
  | receive asked advanced =>
    exact ⟨contents, numbered.others rfl rfl rfl (receipts_advances books.account advanced)⟩
  | given asked =>
    rw [(books.asking _ asked).1] at stored
    exact ⟨contents, numbered.next, numbered.agrees, numbered.numbers,
      .inl (holdsArrive stored)⟩
  | askAgain => exact ⟨contents, numbered.others rfl rfl rfl (List.prefix_refl _)⟩
  | finish asked =>
    rw [(books.asking _ asked).1] at stored
    exact ⟨contents, numbered.next, numbered.agrees, numbered.numbers,
      LastingStore.holdsClose stored⟩
  | attempt phase attempted => exact ⟨contents, numbered.attempt books phase attempted⟩
  | count phase => exact numbered.count books fits phase

/-- Any party keeps the numbers right. -/
theorem Numbered.step [LastingStore σ] (numbered : s.Numbered contents) (kept : Kept capacity s)
    (fits : s.line.accepted.length + 1 < 2 ^ 64) (next : Step s after) :
    ∃ contents, after.Numbered contents := by
  have account := kept.books.account
  cases next with
  | works works => exact numbered.works kept.books fits works
  | captures captures =>
    cases captures with
    | begin event => exact ⟨contents, numbered.others rfl rfl rfl (receipts_begins (.push event))⟩
    | push place here advanced =>
      exact ⟨contents, numbered.others rfl rfl rfl (receipts_advances account advanced)⟩
    | misread => exact ⟨contents, numbered.others rfl rfl rfl (List.prefix_refl _)⟩
  | stops stops =>
    cases stops with
    | stop => exact ⟨contents, numbered.others rfl rfl rfl (receipts_begins .close)⟩
    | giveUp => exact ⟨contents, numbered.others rfl rfl rfl (receipts_begins .discard)⟩
    | close here advanced | discard here advanced =>
      exact ⟨contents, numbered.others rfl rfl rfl (receipts_advances account advanced)⟩
    | drain | inTime | tally | leave | look | load | report =>
      exact ⟨contents, numbered.others rfl rfl rfl (List.prefix_refl _)⟩

/-! ## Every session -/

/-- Every stored record has the number of its event's place, in every run. -/
theorem Leads.numbered [LastingStore σ] {policy : Backpressure} {attempts : Nat} {store : σ}
    {directory : Option String} (leads : Leads (start capacity policy attempts store directory) s)
    (holds : Holds store .empty) (fits : s.line.accepted.length + 1 < 2 ^ 64) :
    ∃ contents, s.Numbered contents := by
  induction leads with
  | here => exact ⟨.empty, numbered_start capacity policy attempts directory holds⟩
  | @step s after prior next ih =>
    have earlier := next.line.grows.1.length_le
    have fits : s.line.accepted.length + 1 < 2 ^ 64 := by omega
    obtain ⟨contents, numbered⟩ := ih fits
    exact numbered.step (prior.kept (kept_start ..)) fits next

/-- What the store holds at any moment are records of received events under their places, and some
writer agrees with it. -/
theorem Numbered.held (numbered : s.Numbered contents) (books : Books capacity s)
    (fits : s.line.accepted.length + 1 < 2 ^ 64) :
    ∃ contents, Holds s.store contents ∧ (∃ writer : Writer, writer.Agrees contents) ∧
      Record.Numbers s.line.receipts contents := by
  have stored := numbered.stored
  -- In the midst of an event its batch has been applied or not.
  have either {event : Event} (here : s.line.receipts[s.ledger.length]? = some event)
      (attempted : Writer.Attempted s.store contents (s.desk.writer.batch event)) :
      ∃ contents, Holds s.store contents ∧ (∃ writer : Writer, writer.Agrees contents) ∧
        Record.Numbers s.line.receipts contents := by
    rcases attempted with kept | applied
    · exact ⟨contents, kept, ⟨_, numbered.agrees⟩, numbered.numbers⟩
    · exact ⟨_, applied, ⟨_, numbered.agrees.applied (numbered.next_lt books here fits)⟩,
        numbered.numbers.apply here numbered.next⟩
  cases phase : s.desk.phase with
  | idle | finished =>
    rw [phase] at stored
    exact ⟨contents, stored, ⟨_, numbered.agrees⟩, numbered.numbers⟩
  | committing event left =>
    rw [phase] at stored
    exact either (books.atDesk (.inl ⟨_, phase⟩)) stored
  | counting event settlement =>
    have here := books.atDesk (.inr ⟨_, phase⟩)
    rw [phase] at stored
    cases settlement with
    | stored => exact either here (.inr stored)
    | abandoned | lost => exact either here stored
  | died =>
    rw [phase] at stored
    obtain ⟨event, here, attempted⟩ := stored
    exact either here attempted

end Stored

end Session

end CausalTrace
