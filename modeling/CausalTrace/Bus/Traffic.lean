import CausalTrace.Bus.Registry

/-!
# Messages under way

`Traffic` is a bus together with everything that goes on at it.  At any moment at most one
program runs.  A program that sends waits until all who receive the message are done, so the
dispatches under way are stacked: `calls` holds them, the innermost first.

`step` does the next thing and says nothing once there is nothing to do, or if the bus is stuck.
`run` takes a limited number of steps.
-/

namespace CausalTrace

/-- A dispatch under way, and the program that waits for it. -/
structure Call where
  message : Message
  /-- Who has still to be served, with the deliveries that a handler brings along. -/
  targets : List (Handler × List Delivery)
  /-- How many there were at first. -/
  count : Nat
  /-- Where a handler waits for the reply, if this is a request. -/
  replyAt : Option String
  /-- The deliveries of the program that waits. -/
  owned : List Delivery
  next : Nat → Program
  deriving Inhabited

/-- A program that runs, with the deliveries it owns. -/
structure Running where
  owned : List Delivery
  program : Program
  deriving Inhabited

/-- A bus and all that goes on at it. -/
structure Traffic where
  bus : Bus
  recording : Recording
  /-- Deliveries that were put aside. -/
  slots : List (String × Delivery)
  running : Option Running
  calls : List Call
  /-- What the last outside caller got. -/
  answer : Answer
  /-- What was written down, newest first. -/
  journal : List Entry
  /-- The short names of the ids that came up. -/
  names : ShortNames
  /-- How many deliveries were made. -/
  delivered : Nat
  /-- How many numbers were given out. -/
  marks : Nat
  /-- The counters that programs asked for, one entry for each time. -/
  tallies : List (Nat × Nat)
  /-- Whether the bus has locked itself. -/
  stuck : Bool
  deriving Inhabited

namespace Traffic

/-- An idle bus with nobody on it. -/
def new (recording : Recording) : Traffic where
  bus := .empty
  recording := recording
  slots := []
  running := none
  calls := []
  answer := .done
  journal := []
  names := ⟨"", []⟩
  delivered := 0
  marks := 0
  tallies := []
  stuck := false

/-- Has ids come up. -/
def mention (traffic : Traffic) (ids : List MessageId) : Traffic :=
  { traffic with names := ids.foldl ShortNames.note traffic.names }

/-- Writes down an entry, in which ids come up. -/
def write (traffic : Traffic) (entry : Entry) : Traffic :=
  { traffic with journal := entry :: traffic.journal }.mention entry.ids

/-- Goes on with the bus after deliveries were dropped, or is stuck. -/
def andThen (traffic : Traffic) : Option Bus → Traffic
  | some bus => { traffic with bus := bus }
  | none => { traffic with stuck := true }

/-! ## Hooks -/

/-- One edit of a hook. -/
def edit (who : String) (state : Message × Traffic) (change : HeaderEdit) : Message × Traffic :=
  let (message, traffic) := state
  match change with
  | .set name value => ({ message with headers := message.headers.set name value }, traffic)
  | .add name value => ({ message with headers := message.headers.add name value }, traffic)
  | .remove name => ({ message with headers := message.headers.without name }, traffic)
  | .note => (message, traffic.write (.hooked who message))

/-- Lets a hook see a message. -/
def applyHook (state : Message × Traffic) (hook : Hook) : Message × Traffic :=
  match hook with
  | .edit who edits => edits.foldl (edit who) state
  | .capture place direction =>
    let (message, traffic) := state
    let (message, _, recording) := traffic.recording.capture place direction message
    (message, { traffic with recording := recording })

/-- Lets the hooks of one side see a message in order. -/
def applyHooks (traffic : Traffic) (side : Side) (message : Message) : Message × Traffic :=
  ((traffic.bus.hooks side).map Prod.snd).foldl applyHook (message, traffic)

/-! ## Sending and serving -/

/-- The message of a draft, with a new identity if it has a lineage. -/
def prepare (traffic : Traffic) (draft : Draft) (reply : Option String) : Message × Traffic :=
  let message := { Message.new draft.address draft.body with reply := reply }
  match draft.lineage with
  | none => (message, traffic)
  | some lineage =>
    let (causality, recording) := traffic.recording.identify lineage
    ({ message with headers := causality.attach message.headers },
      { traffic with recording := recording })

/-- Who receives a message: the handler that waits at its address, which thereby has its
reply, or else consumers. -/
def targets (traffic : Traffic) (message : Message) (mode : Mode) :
    List (Handler × List Delivery) × Traffic :=
  match traffic.bus.takeWaiting message.address with
  | (some waiting, bus) => ([(waiting.handler, waiting.owned)], { traffic with bus := bus })
  | (none, _) =>
    let (consumers, bus) := traffic.bus.audience message.address mode
    (consumers.map fun consumer => (consumer.handler, []), { traffic with bus := bus })

/-- Sends a message for a program that goes on when all are served. -/
def send (traffic : Traffic) (message : Message) (mode : Mode) (owned : List Delivery)
    (next : Nat → Program) : Traffic :=
  let replyAt := message.reply
  let (message, traffic) := traffic.applyHooks .outbound message
  let (targets, traffic) := traffic.targets message mode
  { traffic with
    running := none
    calls := ⟨message, targets, targets.length, replyAt, owned, next⟩ :: traffic.calls }

/-- Hands a message to a handler. -/
def serve (traffic : Traffic) (message : Message) (handler : Handler) (brought : List Delivery) :
    Traffic :=
  let (message, traffic) := traffic.applyHooks .inbound message
  let delivery : Delivery := ⟨traffic.delivered, message⟩
  { traffic.write (.delivered handler.name message) with
    delivered := traffic.delivered + 1
    running := some ⟨delivery :: brought, handler.run delivery⟩ }

/-- Ends a call that has nobody left to serve.  If nobody received a request, the handler for
its reply is released. -/
def conclude (traffic : Traffic) (call : Call) : Traffic :=
  let traffic := { traffic with running := some ⟨call.owned, call.next call.count⟩ }
  match call.replyAt with
  | some address =>
    if call.count = 0 then traffic.andThen (traffic.bus.release address) else traffic
  | none => traffic

/-- The next thing to do while no program runs. -/
def continue? (traffic : Traffic) : Option Traffic :=
  match traffic.calls with
  | [] => none
  | call :: outer =>
    match call.targets with
    | [] => some ({ traffic with calls := outer }.conclude call)
    | (handler, brought) :: later =>
      some ({ traffic with calls := { call with targets := later } :: outer }.serve call.message
        handler brought)

/-! ## Programs -/

/-- The delivery with a number among those that are owned, and the others. -/
def separate (owned : List Delivery) (number : Nat) : List Delivery × List Delivery :=
  owned.partition fun delivery => delivery.number == number

/-- Drops the deliveries of a program that has ended. -/
def finish (traffic : Traffic) (owned : List Delivery) (answer : Answer) : Traffic :=
  { traffic with
    running := none
    answer := if traffic.calls.isEmpty then answer else traffic.answer }.andThen
      (traffic.bus.dropAll owned)

/-- Does the next thing that a program asks for. -/
def advance (traffic : Traffic) (owned : List Delivery) (program : Program) : Traffic :=
  let proceed (traffic : Traffic) (owned : List Delivery) (program : Program) : Traffic :=
    { traffic with running := some ⟨owned, program⟩ }
  match program with
  | .finish answer => traffic.finish owned answer
  | .consume address name handler next =>
    let (id, bus) := traffic.bus.consume address ⟨name, handler⟩
    proceed { traffic with bus := bus } owned (next id)
  | .retire id next =>
    let (found, bus) := traffic.bus.retire id
    proceed { traffic with bus := bus } owned (next found)
  | .dispatch draft mode next =>
    let (message, traffic) := traffic.prepare draft none
    traffic.send message mode owned next
  | .request draft name onReply given next =>
    let (moved, kept) := owned.partition fun delivery => given.contains delivery.number
    let (address, bus) := traffic.bus.await ⟨name, onReply⟩ moved
    let (message, traffic) := { traffic with bus := bus }.prepare draft (some address)
    traffic.send message .toOne kept next
  | .hold slot number next =>
    let (held, kept) := separate owned number
    let former := traffic.slots.filter fun entry => entry.1 == slot
    let others := traffic.slots.filter fun entry => entry.1 != slot
    let traffic := proceed traffic kept next
    match held with
    | [] => traffic
    | delivery :: _ =>
      { traffic with slots := others ++ [(slot, delivery)] }.andThen
        (traffic.bus.dropAll (former.map Prod.snd))
  | .take slot next =>
    let found := traffic.slots.lookup slot
    proceed { traffic with slots := traffic.slots.filter fun entry => entry.1 != slot }
      (found.toList ++ owned) (next found)
  | .peek slot next => proceed traffic owned (next (traffic.slots.lookup slot))
  | .drop number next =>
    let (dropped, kept) := separate owned number
    (proceed traffic kept next).andThen (traffic.bus.dropAll dropped)
  | .pending next => proceed traffic owned (next traffic.bus.pending)
  | .hook side hook next =>
    let (id, bus) := traffic.bus.place side hook
    proceed { traffic with bus := bus } owned (next id)
  | .unhook id next =>
    let (found, bus) := traffic.bus.remove id
    proceed { traffic with bus := bus } owned (next found)
  | .note entry next => proceed (traffic.write entry) owned next
  | .recall next => proceed traffic owned (next traffic.names)
  | .mention ids next => proceed (traffic.mention ids) owned next
  | .mark next =>
    proceed { traffic with marks := traffic.marks + 1 } owned (next traffic.marks)
  | .tally counter next =>
    proceed { traffic with tallies := counter :: traffic.tallies } owned
      (next (traffic.tallies.count counter))

/-- The next thing that happens on the bus. -/
def step (traffic : Traffic) : Option Traffic :=
  if traffic.stuck then none
  else
    match traffic.running with
    | some running => some (traffic.advance running.owned running.program)
    | none => traffic.continue?

/-- At most so many steps. -/
def run : Nat → Traffic → Traffic
  | 0, traffic => traffic
  | limit + 1, traffic =>
    match traffic.step with
    | none => traffic
    | some traffic => run limit traffic

/-- Whether nothing is under way. -/
def isIdle (traffic : Traffic) : Bool :=
  traffic.running.isNone && traffic.calls.isEmpty

/-- An outside caller begins a program. -/
def start (traffic : Traffic) (program : Program) : Traffic :=
  { traffic with running := some ⟨[], program⟩ }

/-- How many steps a program of an outside caller is given: far more than any that ends in
practice takes. -/
def stepLimit : Nat := 10 ^ 8

/-- Runs a program of an outside caller to its end, and then lets the writers work. -/
def perform (traffic : Traffic) (program : Program) : Traffic :=
  let traffic := (traffic.start program).run stepLimit
  { traffic with recording := traffic.recording.work }

end Traffic

end CausalTrace
