import CausalTrace.Message.Basic
import CausalTrace.Message.IdSource
import CausalTrace.Writer

/-!
# Recording messages

A recorder is the place where capture hooks leave their events.  It may have a writer at its
other end, which works while the bus is idle or while a hook waits for room.

Capturing a sent message leaves it with a readable identity; a new one is a root.  Capturing a
received message leaves it as it is.  Whatever becomes of the event, the message goes on.
-/

namespace CausalTrace

/-- A store of one of the kinds that a writer can be given. -/
inductive OpenStore where
  | log (store : LogStore)
  | memory (store : MemoryStore)
  | unreliable (store : UnreliableStore)
  deriving Inhabited

namespace OpenStore

/-- What kind of store it is. -/
def name : OpenStore → String
  | log _ => "log"
  | memory _ => "memory"
  | unreliable store => store.name

/-- Opens the gate, if the store has one. -/
def openGate : OpenStore → OpenStore
  | unreliable store => unreliable store.openGate
  | other => other

instance : Store (OpenStore × FileTree) where
  arrive
    | (unreliable store, tree) => (unreliable (Store.arrive store), tree)
    | other => other
  holdsBack
    | (unreliable store, _) => Store.holdsBack store
    | _ => false
  commit
    | (log store, tree), batch =>
      let (answer, store, tree) := Store.commit (store, tree) batch
      (answer, log store, tree)
    | (memory store, tree), batch =>
      let (answer, store) := Store.commit store batch
      (answer, memory store, tree)
    | (unreliable store, tree), batch =>
      let (answer, store) := Store.commit store batch
      (answer, unreliable store, tree)
  close
    | (log store, tree) =>
      let (failure, store, tree) := Store.close (store, tree)
      (failure, log store, tree)
    | (memory store, tree) =>
      let (failure, store) := Store.close store
      (failure, memory store, tree)
    | (unreliable store, tree) =>
      let (failure, store) := Store.close store
      (failure, unreliable store, tree)

end OpenStore

/-- Where hooks leave their events, and who takes them. -/
structure Recorder where
  channel : Channel Event
  stats : Stats
  /-- The writer and its store, if there is a writer. -/
  back : Option (Desk × OpenStore)
  deriving Inhabited

namespace Recorder

/-- A recorder without a writer. -/
def new (capacity : Nat) (policy : Backpressure) : Recorder := ⟨.new capacity policy, .zero, none⟩

/-- The writer works until it has to wait. -/
def work (recorder : Recorder) (tree : FileTree) : Recorder × FileTree :=
  match recorder.back with
  | none => (recorder, tree)
  | some (desk, store) =>
    let done := Workplace.run ⟨desk, recorder.channel, recorder.stats, (store, tree)⟩
    (⟨done.channel, done.stats, some (done.desk, done.store.1)⟩, done.store.2)

/-- Whether there is no writer that still has work to do. -/
def isDone (recorder : Recorder) : Bool :=
  match recorder.back with
  | none => true
  | some (desk, _) => desk.isDone

/-- Pushes an event.  A hook that has to wait lets the writer work, and gives up if there
is still no room. -/
def push (recorder : Recorder) (tree : FileTree) (event : Event) :
    Channel.PushPhase × Recorder × FileTree :=
  match recorder.channel.enter event with
  | (_, .waiting) =>
    let (recorder, tree) := recorder.work tree
    let (channel, phase) := Channel.settlePush (recorder.channel.resume event true)
    (phase, { recorder with channel := channel }, tree)
  | decided =>
    let (channel, phase) := Channel.settlePush decided
    (phase, { recorder with channel := channel }, tree)

/-- Opens the gate of an unreliable store. -/
def openGate (recorder : Recorder) : Recorder :=
  { recorder with back := recorder.back.map fun (desk, store) => (desk, store.openGate) }

/-- All counts at this moment. -/
def counts (recorder : Recorder) : Counts :=
  recorder.stats.snapshot (some recorder.channel.metrics)

end Recorder

/-- The failure of a hook whose channel has ended. -/
def channelEnded : TraceError := .invalidState "trace channel closed"

/-- What the end of a push means for a hook.  Dropping is no failure where it is the policy. -/
def captureResult {α : Type} (channel : Channel α) : Channel.PushPhase → Except TraceError Unit
  | .refused .closed => .error channelEnded
  | .refused .full =>
    match channel.policy with
    | .dropNewest => .ok ()
    | .block _ => .error (.channelSaturated channel.capacity)
  | .accepted => .ok ()
  | .waiting => .ok ()

/-- What a hook makes of the identity in headers. -/
structure Sighting where
  /-- The headers afterwards. -/
  headers : Headers
  causality : Option Causality
  malformed : Bool
  /-- The source of ids afterwards. -/
  ids : IdSource

/-- Gives headers a new identity without parents. -/
def Sighting.root (headers : Headers) (malformed : Bool) (ids : IdSource) : Sighting :=
  let causality := Lineage.root.identity ids.id
  ⟨causality.attach headers, some causality, malformed, ids.advance⟩

/-- What a hook for one direction makes of the identity in headers. -/
def Direction.sight (direction : Direction) (headers : Headers) (ids : IdSource) : Sighting :=
  match direction, Causality.extract headers with
  | .sent, .ok (some causality) => ⟨headers, some causality, false, ids⟩
  | .sent, .ok none => .root headers false ids
  | .sent, .error _ => .root headers true ids
  | .received, .ok found => ⟨headers, found, false, ids⟩
  | .received, .error _ => ⟨headers, none, true, ids⟩

/-- The counts after the identity of a message was looked at. -/
def Stats.sighted (stats : Stats) (malformed : Bool) : Stats :=
  if malformed then { stats with malformed := stats.malformed + 1 } else stats

/-- All recorders and what they share. -/
structure Recording where
  recorders : List Recorder
  tree : FileTree
  ids : IdSource
  /-- The time, in milliseconds since the start of 1970. -/
  clock : Int64
  deriving Inhabited

namespace Recording

/-- No recorders and no files. -/
def new (ids : IdSource) (clock : Int64) : Recording := ⟨[], .empty, ids, clock⟩

/-- A new identity. -/
def identify (recording : Recording) (lineage : Lineage) : Causality × Recording :=
  (lineage.identity recording.ids.id, { recording with ids := recording.ids.advance })

/-- Adds a recorder and gives its place. -/
def add (recording : Recording) (recorder : Recorder) : Nat × Recording :=
  (recording.recorders.length, { recording with recorders := recording.recorders ++ [recorder] })

/-- Changes the recorder at a place. -/
def modify (recording : Recording) (place : Nat) (change : Recorder → Recorder) : Recording :=
  { recording with recorders := recording.recorders.modify place change }

/-- Uses the channel of the recorder at a place. -/
def useChannel {α : Type} (recording : Recording) (place : Nat)
    (use : Channel Event → Channel Event × α) : Recording × α :=
  let (channel, result) := use ((recording.recorders[place]?).getD default).channel
  (recording.modify place fun recorder => { recorder with channel := channel }, result)

/-- The writer of one recorder works until it has to wait. -/
def workAt (recording : Recording) (place : Nat) : Recording :=
  match recording.recorders[place]? with
  | none => recording
  | some recorder =>
    let (recorder, tree) := recorder.work recording.tree
    { recording with recorders := recording.recorders.set place recorder, tree := tree }

/-- All writers work until they have to wait. -/
def work (recording : Recording) : Recording :=
  (List.range recording.recorders.length).foldl workAt recording

/-- Captures a message for a recorder: gives the message as it goes on and how it went. -/
def capture (recording : Recording) (place : Nat) (direction : Direction) (message : Message) :
    Message × Except TraceError Unit × Recording :=
  match recording.recorders[place]? with
  | none => (message, .error channelEnded, recording)
  | some recorder =>
    let sighting := direction.sight message.headers recording.ids
    let message := { message with headers := sighting.headers }
    let recorder := { recorder with stats := recorder.stats.sighted sighting.malformed }
    let event : Event := ⟨message.snapshot, sighting.causality, direction, recording.clock⟩
    let (phase, recorder, tree) := recorder.push recording.tree event
    (message, captureResult recorder.channel phase, { recording with
      recorders := recording.recorders.set place recorder
      tree := tree
      ids := sighting.ids })

end Recording

end CausalTrace
