import CausalTrace.Channel

/-!
# Calls that share a channel

Any number of callers use a channel at once.  Each call is a sequence of sections, and a section
runs without interruption; between two sections of a call any other call may begin or run one of
its own.  A call that waits goes on whenever it is woken, for a reason, for none, or because its
time is up.

`Calls` is a channel with all calls that were ever begun on it, each where it stands.  Two lists
record what the sections did to items: which pushes were accepted, and what became of accepted items
that have left the queue.  No section looks at them.  `Effect` says once what a section can do.
-/

namespace CausalTrace

namespace Channel

variable {α : Type}

/-! ## What a section does to a channel -/

/-- What a section of a push can come to. -/
inductive Pushes (channel : Channel α) (item : α) : Channel α × PushPhase → Prop where
  | rejected (ended : channel.closed = true) : Pushes channel item channel.reject
  | dropped (goesOn : channel.closed = false) (full : channel.isFull = true) :
      Pushes channel item channel.drop
  | waits (goesOn : channel.closed = false) (full : channel.isFull = true) :
      Pushes channel item (channel, .waiting)
  | accepted (goesOn : channel.closed = false) (room : channel.isFull = false) :
      Pushes channel item (channel.accept item)

/-- The first section of a push comes to one of these. -/
theorem enter_pushes (channel : Channel α) (item : α) :
    Pushes channel item (channel.enter item) := by
  unfold enter
  split
  next ended => exact .rejected ended
  next goesOn =>
    rw [Bool.not_eq_true] at goesOn
    split
    next full =>
      split
      · exact .dropped goesOn full
      · exact .waits goesOn full
    next room => exact .accepted goesOn (Bool.not_eq_true _ ▸ room)

/-- Each later section of a push does too, so being woken for no reason changes nothing. -/
theorem resume_pushes (channel : Channel α) (item : α) (timedOut : Bool) :
    Pushes channel item (channel.resume item timedOut) := by
  unfold resume
  split
  next ended => exact .rejected ended
  next goesOn =>
    rw [Bool.not_eq_true] at goesOn
    split
    next full =>
      split
      · exact .dropped goesOn full
      · exact .waits goesOn full
    next room => exact .accepted goesOn (Bool.not_eq_true _ ▸ room)

/-- What a section of a receive can come to. -/
inductive Receives (channel : Channel α) : Channel α × ReceivePhase α → Prop where
  | item {first rest} (next : channel.queue = first :: rest) :
      Receives channel ({ channel with queue := rest }, .item first)
  | ended (ended : channel.closed = true) (empty : channel.queue = []) :
      Receives channel (channel, .closed)
  | waits (goesOn : channel.closed = false) (empty : channel.queue = []) :
      Receives channel (channel, .waiting)
  | timedOut (goesOn : channel.closed = false) (empty : channel.queue = []) :
      Receives channel (channel, .timedOut)

/-- The first section of a receive comes to one of these. -/
theorem look_receives (channel : Channel α) : Receives channel channel.look := by
  unfold look
  split
  next next => exact .item next
  next empty =>
    cases ended : channel.closed with
    | true => exact .ended ended empty
    | false => exact .waits ended empty

/-- Each later section of a receive does too, whether or not its time is up. -/
theorem lookAgain_receives (channel : Channel α) (timedOut : Bool) :
    Receives channel (channel.lookAgain timedOut) := by
  have looked := channel.look_receives
  unfold lookAgain
  cases found : channel.look with
  | mk after phase =>
    rw [found] at looked
    cases looked with
    | item next => exact .item next
    | ended ended empty => exact .ended ended empty
    | waits goesOn empty =>
      cases timedOut with
      | true => exact .timedOut goesOn empty
      | false => exact .waits goesOn empty
    | timedOut goesOn empty => exact .timedOut goesOn empty

/-! ## Calls and where they stand -/

/-- Where a push stands between two sections. -/
inductive PushStage where
  | entering
  | waiting
  /-- The item is in the queue and has still to be counted. -/
  | counting
  | accepted
  | refused (reason : Refusal)
  deriving DecidableEq, Repr

/-- Where a receive stands between two sections. -/
inductive ReceiveStage (α : Type) where
  | looking
  | waiting
  /-- The item has left the queue and has still to be counted. -/
  | counting (item : α)
  | received (item : α)
  | closed
  | timedOut
  deriving DecidableEq, Repr

/-- Where a discard stands between two sections. -/
inductive DiscardStage where
  | clearing
  /-- So many items have left the queue and have still to be counted. -/
  | counting (count : Nat)
  | done (count : Nat)
  deriving DecidableEq, Repr

/-- A call, and where it stands. -/
inductive Call (α : Type) where
  | push (item : α) (stage : PushStage)
  | receive (stage : ReceiveStage α)
  /-- A close that has told how many items wait, or has still to run. -/
  | close (waiting : Option Nat)
  | discard (stage : DiscardStage)
  deriving DecidableEq, Repr

/-- A call none of whose sections has run. -/
inductive Call.Begins : Call α → Prop where
  | push (item : α) : Begins (.push item .entering)
  | receive : Begins (.receive .looking)
  | close : Begins (.close none)
  | discard : Begins (.discard .clearing)

/-- Whether a call has returned. -/
def Call.isDone : Call α → Bool
  | push _ (.refused _) | push _ .accepted => true
  | push _ _ => false
  | receive (.received _) | receive .closed | receive .timedOut => true
  | receive _ => false
  | close waiting => waiting.isSome
  | discard (.done _) => true
  | discard _ => false

/-- What became of an accepted item that has left the queue, and by which call. -/
inductive Fate where
  | received (place : Nat)
  | discarded (place : Nat)
  deriving DecidableEq, Repr

/-- The receive that took an item. -/
def Fate.receiver? : Fate → Option Nat
  | received place => some place
  | discarded _ => none

/-- The discard that took an item. -/
def Fate.discarder? : Fate → Option Nat
  | received _ => none
  | discarded place => some place

/-- A channel and the calls on it, each under its place in the order in which they were begun. -/
structure Calls (α : Type) where
  channel : Channel α
  calls : List (Call α)
  /-- The pushes that were accepted, in order, with their items. -/
  accepted : List (Nat × α)
  /-- What became of the accepted items that have left the queue, in the order of acceptance. -/
  fates : List Fate
  deriving DecidableEq, Repr

namespace Calls

/-- A new channel on which no call was begun. -/
def new (capacity : Nat) (policy : Backpressure) : Calls α := ⟨.new capacity policy, [], [], []⟩

/-- One more call is begun. -/
def begin (s : Calls α) (call : Call α) : Calls α := { s with calls := s.calls ++ [call] }

/-- A call has come to stand elsewhere, and the channel has changed. -/
def turn (s : Calls α) (channel : Channel α) (place : Nat) (call : Call α) : Calls α :=
  { s with channel := channel, calls := s.calls.set place call }

/-- After a section that decides a push. -/
def pushed (s : Calls α) (place : Nat) (item : α) : Channel α × PushPhase → Calls α
  | (channel, .waiting) => s.turn channel place (.push item .waiting)
  | (channel, .accepted) =>
    { s.turn channel place (.push item .counting) with accepted := s.accepted ++ [(place, item)] }
  | (channel, .refused reason) => s.turn channel place (.push item (.refused reason))

/-- After a section that looks for an item. -/
def looked (s : Calls α) (place : Nat) : Channel α × ReceivePhase α → Calls α
  | (channel, .waiting) => s.turn channel place (.receive .waiting)
  | (channel, .item item) =>
    { s.turn channel place (.receive (.counting item)) with
      fates := s.fates ++ [.received place] }
  | (channel, .closed) => s.turn channel place (.receive .closed)
  | (channel, .timedOut) => s.turn channel place (.receive .timedOut)

/-- After the section that empties the queue. -/
def cleared (s : Calls α) (place : Nat) : Channel α × Nat → Calls α
  | (channel, count) =>
    { s.turn channel place (.discard (.counting count)) with
      fates := s.fates ++ List.replicate count (.discarded place) }

/-- The call at a place runs its next section. -/
inductive Advances (s : Calls α) (place : Nat) : Calls α → Prop where
  | enter {item} (here : s.calls[place]? = some (.push item .entering)) :
      Advances s place (s.pushed place item (s.channel.enter item))
  | resume {item} (timedOut : Bool) (here : s.calls[place]? = some (.push item .waiting)) :
      Advances s place (s.pushed place item (s.channel.resume item timedOut))
  | countPushed {item} (here : s.calls[place]? = some (.push item .counting)) :
      Advances s place (s.turn s.channel.countPushed place (.push item .accepted))
  | look (here : s.calls[place]? = some (.receive .looking)) :
      Advances s place (s.looked place s.channel.look)
  | lookAgain (timedOut : Bool) (here : s.calls[place]? = some (.receive .waiting)) :
      Advances s place (s.looked place (s.channel.lookAgain timedOut))
  | countReceived {item} (here : s.calls[place]? = some (.receive (.counting item))) :
      Advances s place (s.turn s.channel.countReceived place (.receive (.received item)))
  | close (here : s.calls[place]? = some (.close none)) :
      Advances s place (s.turn s.channel.close.1 place (.close (some s.channel.close.2)))
  | clear (here : s.calls[place]? = some (.discard .clearing)) :
      Advances s place (s.cleared place s.channel.clear)
  | countDiscarded {count} (here : s.calls[place]? = some (.discard (.counting count))) :
      Advances s place (s.turn (s.channel.countDiscarded count) place (.discard (.done count)))

/-- A call begins, or one of the calls runs a section. -/
inductive Step (s : Calls α) : Calls α → Prop where
  | begin {call} (begins : call.Begins) : Step s (s.begin call)
  | advance (place : Nat) {after} (advanced : s.Advances place after) : Step s after

/-- Any calls, interleaved in any way. -/
inductive Leads (start : Calls α) : Calls α → Prop where
  | here : Leads start start
  | step {s after} (prior : Leads start s) (next : Step s after) : Leads start after

/-- What is led to can be led on. -/
theorem Leads.trans {first middle last : Calls α} (before : Leads first middle)
    (behind : Leads middle last) : Leads first last := by
  induction behind with
  | here => exact before
  | step _ next ih => exact .step ih next

/-! ## A call with nothing in between

The calls of `Channel` that run all their sections at once are interleavings of one call.
-/

/-- A push that is settled within one call is also led to section by section. -/
theorem Leads.settlePush {start s : Calls α} {place : Nat} {item : α}
    {result : Channel α × PushPhase} (prior : Leads start (s.pushed place item result))
    (known : place < s.calls.length) :
    ∃ after, Leads start after ∧ after.channel = (Channel.settlePush result).1 := by
  obtain ⟨channel, phase⟩ := result
  cases phase with
  | accepted =>
    exact ⟨_, prior.step (.advance place (.countPushed (List.getElem?_set_self known))), rfl⟩
  | waiting | refused => exact ⟨_, prior, rfl⟩

/-- A whole push by a single caller is one of the interleavings. -/
theorem Leads.push (s : Calls α) (item : α) :
    ∃ after, Leads s after ∧ after.channel = (s.channel.push item).1 := by
  have begun : Leads s (s.begin (.push item .entering)) := .step .here (.begin (.push item))
  have known : s.calls.length < (s.calls ++ [Call.push item .entering]).length := by simp
  have entered := begun.step (.advance s.calls.length (.enter List.getElem?_concat_length))
  unfold Channel.push
  split
  next channel waits =>
    rw [begin, waits] at entered
    have resumed := entered.step (.advance s.calls.length
      (.resume true (List.getElem?_set_self known)))
    exact resumed.settlePush (Nat.lt_of_lt_of_eq known List.length_set.symm)
  next => exact entered.settlePush known

/-- A receive that is settled within one call is also led to section by section. -/
theorem Leads.settleReceive {start s : Calls α} {place : Nat}
    {result : Channel α × ReceivePhase α} (prior : Leads start (s.looked place result))
    (known : place < s.calls.length) :
    ∃ after, Leads start after ∧ after.channel = (Channel.settleReceive result).1 := by
  obtain ⟨channel, phase⟩ := result
  cases phase with
  | item =>
    exact ⟨_, prior.step (.advance place (.countReceived (List.getElem?_set_self known))), rfl⟩
  | waiting | closed | timedOut => exact ⟨_, prior, rfl⟩

/-- A whole receive by a single caller is one of the interleavings. -/
theorem Leads.receive (s : Calls α) :
    ∃ after, Leads s after ∧ after.channel = s.channel.receive.1 := by
  have begun : Leads s (s.begin (.receive .looking)) := .step .here (.begin .receive)
  have known : s.calls.length < (s.calls ++ [Call.receive .looking]).length := by simp
  have looked := begun.step (.advance s.calls.length (.look List.getElem?_concat_length))
  unfold Channel.receive
  rcases found : s.channel.look with ⟨channel, phase⟩
  have decided : phase ≠ .waiting → s.channel.lookAgain true = (channel, phase) := by
    intro decided
    rw [lookAgain, found]
    cases phase with
    | waiting => exact absurd rfl decided
    | item | closed | timedOut => rfl
  cases phase with
  | waiting =>
    have same : s.channel = channel := by
      have receives := s.channel.look_receives
      rw [found] at receives
      cases receives
      rfl
    rw [begin, found] at looked
    have lookedAgain := looked.step (.advance s.calls.length
      (.lookAgain true (List.getElem?_set_self known)))
    rw [same]
    exact lookedAgain.settleReceive (Nat.lt_of_lt_of_eq known List.length_set.symm)
  | item | closed | timedOut =>
    rw [decided nofun, ← found]
    exact looked.settleReceive known

/-- A whole discard by a single caller is one of the interleavings. -/
theorem Leads.discard (s : Calls α) :
    ∃ after, Leads s after ∧ after.channel = s.channel.discard.1 := by
  have begun : Leads s (s.begin (.discard .clearing)) := .step .here (.begin .discard)
  have known : s.calls.length < (s.calls ++ [Call.discard .clearing]).length := by simp
  have cleared := begun.step (.advance s.calls.length (.clear List.getElem?_concat_length))
  exact ⟨_, cleared.step (.advance s.calls.length
    (.countDiscarded (List.getElem?_set_self known))), rfl⟩

/-! ## What a section can do -/

/-- Everything that a section of the call at a place can do. -/
inductive Effect (s : Calls α) (place : Nat) : Calls α → Prop where
  | rejected {item stage} (here : s.calls[place]? = some (.push item stage))
      (pending : stage = .entering ∨ stage = .waiting) (ended : s.channel.closed = true) :
      Effect s place (s.turn s.channel.reject.1 place (.push item (.refused .closed)))
  | dropped {item stage} (here : s.calls[place]? = some (.push item stage))
      (pending : stage = .entering ∨ stage = .waiting) (goesOn : s.channel.closed = false) :
      Effect s place (s.turn s.channel.drop.1 place (.push item (.refused .full)))
  | pushWaits {item stage} (here : s.calls[place]? = some (.push item stage))
      (pending : stage = .entering ∨ stage = .waiting) (goesOn : s.channel.closed = false) :
      Effect s place (s.turn s.channel place (.push item .waiting))
  | accepted {item stage} (here : s.calls[place]? = some (.push item stage))
      (pending : stage = .entering ∨ stage = .waiting) (goesOn : s.channel.closed = false)
      (room : s.channel.isFull = false) :
      Effect s place { s.turn (s.channel.accept item).1 place (.push item .counting) with
        accepted := s.accepted ++ [(place, item)] }
  | pushCounted {item} (here : s.calls[place]? = some (.push item .counting)) :
      Effect s place (s.turn s.channel.countPushed place (.push item .accepted))
  | taken {stage first rest} (here : s.calls[place]? = some (.receive stage))
      (pending : stage = .looking ∨ stage = .waiting) (next : s.channel.queue = first :: rest) :
      Effect s place { s.turn { s.channel with queue := rest } place
          (.receive (.counting first)) with
        fates := s.fates ++ [.received place] }
  | ended {stage} (here : s.calls[place]? = some (.receive stage))
      (pending : stage = .looking ∨ stage = .waiting) (ended : s.channel.closed = true)
      (empty : s.channel.queue = []) :
      Effect s place (s.turn s.channel place (.receive .closed))
  | receiveWaits {stage} (here : s.calls[place]? = some (.receive stage))
      (pending : stage = .looking ∨ stage = .waiting) (goesOn : s.channel.closed = false) :
      Effect s place (s.turn s.channel place (.receive .waiting))
  | timedOut {stage} (here : s.calls[place]? = some (.receive stage))
      (pending : stage = .looking ∨ stage = .waiting) (goesOn : s.channel.closed = false) :
      Effect s place (s.turn s.channel place (.receive .timedOut))
  | receiveCounted {item} (here : s.calls[place]? = some (.receive (.counting item))) :
      Effect s place (s.turn s.channel.countReceived place (.receive (.received item)))
  | closed (here : s.calls[place]? = some (.close none)) :
      Effect s place (s.turn s.channel.close.1 place (.close (some s.channel.size)))
  | cleared (here : s.calls[place]? = some (.discard .clearing)) :
      Effect s place { s.turn s.channel.clear.1 place (.discard (.counting s.channel.size)) with
        fates := s.fates ++ List.replicate s.channel.size (.discarded place) }
  | discardCounted {count} (here : s.calls[place]? = some (.discard (.counting count))) :
      Effect s place (s.turn (s.channel.countDiscarded count) place (.discard (.done count)))

section Effects

variable {s after : Calls α} {place : Nat}

/-- Any section of a push has an effect that is named. -/
theorem Effect.of_pushes {item : α} {stage : PushStage} {result : Channel α × PushPhase}
    (here : s.calls[place]? = some (.push item stage))
    (pending : stage = .entering ∨ stage = .waiting) (pushes : Pushes s.channel item result) :
    Effect s place (s.pushed place item result) := by
  cases pushes with
  | rejected ended => exact .rejected here pending ended
  | dropped goesOn => exact .dropped here pending goesOn
  | waits goesOn => exact .pushWaits here pending goesOn
  | accepted goesOn room => exact .accepted here pending goesOn room

/-- Any section of a receive has an effect that is named. -/
theorem Effect.of_receives {stage : ReceiveStage α} {result : Channel α × ReceivePhase α}
    (here : s.calls[place]? = some (.receive stage))
    (pending : stage = .looking ∨ stage = .waiting) (receives : Receives s.channel result) :
    Effect s place (s.looked place result) := by
  cases receives with
  | item next => exact .taken here pending next
  | ended ended empty => exact .ended here pending ended empty
  | waits goesOn => exact .receiveWaits here pending goesOn
  | timedOut goesOn => exact .timedOut here pending goesOn

/-- Any section of any call has an effect that is named. -/
theorem Advances.effect (advanced : s.Advances place after) : Effect s place after := by
  cases advanced with
  | enter here => exact .of_pushes here (.inl rfl) (enter_pushes _ _)
  | resume timedOut here => exact .of_pushes here (.inr rfl) (resume_pushes _ _ timedOut)
  | countPushed here => exact .pushCounted here
  | look here => exact .of_receives here (.inl rfl) (look_receives _)
  | lookAgain timedOut here => exact .of_receives here (.inr rfl) (lookAgain_receives _ timedOut)
  | countReceived here => exact .receiveCounted here
  | close here => exact .closed here
  | clear here => exact .cleared here
  | countDiscarded here => exact .discardCounted here

end Effects

end Calls

end Channel

end CausalTrace
