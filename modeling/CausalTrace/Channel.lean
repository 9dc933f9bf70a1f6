/-!
# The hand-off channel

Capturing must never hold up a message, so events pass to the writer through a bounded queue.
What happens when the queue is full is a policy: the newest item is dropped at once, or its
sender waits for a limited time.

A call on the channel is a sequence of sections that each run without interruption; between two
of them any other call may run its own.  This module gives the sections.  `enter` and `resume`
decide a push, `look` and `lookAgain` a receive.  A call that has to wait is in a phase of its
own until it is woken, and it is woken for a reason, for none, or because its time is up.  An
accepted item is counted as pushed, and a received one as received, only after the section that
moved it.
-/

namespace CausalTrace

/-- What happens to an item for which there is no room. -/
inductive Backpressure where
  | dropNewest
  /-- The sender waits for at most so many milliseconds. -/
  | block (timeout : Nat)
  deriving DecidableEq, Repr, Inhabited

/-- What became of the calls on a channel.  The counters are natural numbers and do not run over. -/
structure ChannelMetrics where
  /-- Items accepted. -/
  pushed : Nat
  /-- Items for which there was no room. -/
  dropped : Nat
  /-- Items that came after the end. -/
  rejected : Nat
  /-- Items handed on. -/
  received : Nat
  /-- Items thrown away unread. -/
  discarded : Nat
  deriving DecidableEq, Repr, Inhabited

/-- A bounded queue that can be closed. -/
structure Channel (α : Type) where
  capacity : Nat
  policy : Backpressure
  /-- The items that wait, oldest first. -/
  queue : List α
  closed : Bool
  metrics : ChannelMetrics
  deriving DecidableEq, Repr, Inhabited

namespace Channel

variable {α : Type}

/-- An open channel without items.  There is always room for one. -/
def new (capacity : Nat) (policy : Backpressure) : Channel α :=
  ⟨max capacity 1, policy, [], false, ⟨0, 0, 0, 0, 0⟩⟩

/-- Whether there is no room. -/
def isFull (channel : Channel α) : Bool :=
  channel.capacity ≤ channel.queue.length

/-- How many items wait. -/
def size (channel : Channel α) : Nat :=
  channel.queue.length

/-! ## Pushing -/

/-- Why an item was not accepted. -/
inductive Refusal where
  | full
  | closed
  deriving DecidableEq, Repr, Inhabited

/-- Where a push stands after a section. -/
inductive PushPhase where
  /-- There is no room yet. -/
  | waiting
  /-- The item is in the queue; it has still to be counted. -/
  | accepted
  | refused (reason : Refusal)
  deriving DecidableEq, Repr, Inhabited

/-- Refuses an item after the end. -/
def reject (channel : Channel α) : Channel α × PushPhase :=
  ({ channel with metrics.rejected := channel.metrics.rejected + 1 }, .refused .closed)

/-- Refuses an item for which there is no room. -/
def drop (channel : Channel α) : Channel α × PushPhase :=
  ({ channel with metrics.dropped := channel.metrics.dropped + 1 }, .refused .full)

/-- Puts an item at the end of the queue. -/
def accept (channel : Channel α) (item : α) : Channel α × PushPhase :=
  ({ channel with queue := channel.queue ++ [item] }, .accepted)

/-- The first section of a push. -/
def enter (channel : Channel α) (item : α) : Channel α × PushPhase :=
  if channel.closed then channel.reject
  else if channel.isFull then
    match channel.policy with
    | .dropNewest => channel.drop
    | .block _ => (channel, .waiting)
  else channel.accept item

/-- A further section of a push that waits; `timedOut` tells whether its time is up. -/
def resume (channel : Channel α) (item : α) (timedOut : Bool) : Channel α × PushPhase :=
  if channel.closed then channel.reject
  else if channel.isFull then if timedOut then channel.drop else (channel, .waiting)
  else channel.accept item

/-- Counts an accepted item. -/
def countPushed (channel : Channel α) : Channel α :=
  { channel with metrics.pushed := channel.metrics.pushed + 1 }

/-- Counts an item if it was accepted. -/
def settlePush : Channel α × PushPhase → Channel α × PushPhase
  | (channel, .accepted) => (channel.countPushed, .accepted)
  | unsettled => unsettled

/-- A push while no other call runs: waiting for room is in vain. -/
def push (channel : Channel α) (item : α) : Channel α × PushPhase :=
  settlePush <|
    match channel.enter item with
    | (channel, .waiting) => channel.resume item true
    | decided => decided

/-- Pushes of several items while no other call runs: those for which there is room come into the
queue together, and the others are refused.  Tells what became of the last. -/
def pushAll (channel : Channel α) (items : List α) : Channel α × Option PushPhase :=
  let metrics := channel.metrics
  if channel.closed then
    ({ channel with metrics.rejected := metrics.rejected + items.length },
      items.getLast?.map fun _ => .refused .closed)
  else
    let room := channel.capacity - channel.size
    ({ channel with
        queue := channel.queue ++ items.take room
        metrics.pushed := metrics.pushed + min room items.length
        metrics.dropped := metrics.dropped + (items.length - room) },
      items.getLast?.map fun _ => if items.length ≤ room then .accepted else .refused .full)

/-! ## Receiving -/

/-- Where a receive stands after a section. -/
inductive ReceivePhase (α : Type) where
  /-- There is no item yet. -/
  | waiting
  /-- The item has left the queue; it has still to be counted. -/
  | item (item : α)
  /-- The channel is closed and has no item left. -/
  | closed
  | timedOut
  deriving DecidableEq, Repr, Inhabited

/-- A section of a receive. -/
def look (channel : Channel α) : Channel α × ReceivePhase α :=
  match channel.queue with
  | item :: rest => ({ channel with queue := rest }, .item item)
  | [] => (channel, if channel.closed then .closed else .waiting)

/-- A further section of a receive that waits; when its time is up it looks one last time. -/
def lookAgain (channel : Channel α) (timedOut : Bool) : Channel α × ReceivePhase α :=
  match channel.look with
  | (channel, .waiting) => (channel, if timedOut then .timedOut else .waiting)
  | decided => decided

/-- Counts an item that has left the queue. -/
def countReceived (channel : Channel α) : Channel α :=
  { channel with metrics.received := channel.metrics.received + 1 }

/-- Counts an item if there was one. -/
def settleReceive : Channel α × ReceivePhase α → Channel α × ReceivePhase α
  | (channel, .item item) => (channel.countReceived, .item item)
  | unsettled => unsettled

/-- A receive while no other call runs: waiting for an item is in vain. -/
def receive (channel : Channel α) : Channel α × ReceivePhase α :=
  settleReceive (channel.lookAgain true)

/-! ## Ending -/

/-- Closes the channel and tells how many items wait. -/
def close (channel : Channel α) : Channel α × Nat :=
  ({ channel with closed := true }, channel.size)

/-- The first section of a discard: empties the queue and tells how many items there were. -/
def clear (channel : Channel α) : Channel α × Nat :=
  ({ channel with queue := [] }, channel.size)

/-- Counts discarded items. -/
def countDiscarded (channel : Channel α) (count : Nat) : Channel α :=
  { channel with metrics.discarded := channel.metrics.discarded + count }

/-- A discard while no other call runs. -/
def discard (channel : Channel α) : Channel α × Nat :=
  let (channel, count) := channel.clear
  (channel.countDiscarded count, count)

/-- Receives until nothing comes. -/
def drain (channel : Channel α) : Channel α × List α :=
  ({ channel with
      queue := []
      metrics.received := channel.metrics.received + channel.size }, channel.queue)

end Channel

end CausalTrace
