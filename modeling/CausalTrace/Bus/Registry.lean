import CausalTrace.Bus.Program

/-!
# Who is on the bus

The registry of a bus knows the consumers of each address, the handlers that wait for a reply
and the hooks on both sides.  Consumers, hooks and reply addresses are numbered from one counter.

Dropping the delivery of a request releases the handler that waits for its reply.  The register
of waiting handlers is locked while a released handler goes away.  A handler that owns the
delivery of another request would have to lock the register again to release the next handler:
that never succeeds, and the bus is stuck.
-/

namespace CausalTrace

/-- A registered consumer. -/
structure Consumer where
  id : Nat
  handler : Handler
  deriving Inhabited

/-- A handler that waits at a reply address, with the deliveries it owns. -/
structure Waiting where
  address : String
  handler : Handler
  owned : List Delivery
  deriving Inhabited

/-- The registry of a bus. -/
structure Bus where
  /-- The consumers of each address that has some, in the order of their registration. -/
  consumers : List (String × List Consumer)
  waiting : List Waiting
  outbound : List (Nat × Hook)
  inbound : List (Nat × Hook)
  /-- The next id.  Ids do not run out. -/
  next : Nat
  /-- How many messages were sent to one of the consumers of an address.  The count does not run
  over. -/
  turn : Nat
  deriving Inhabited

namespace Bus

/-- A bus with nobody on it. -/
def empty : Bus := ⟨[], [], [], [], 1, 0⟩

/-! ## Consumers -/

/-- The consumers of an address. -/
def consumersOf (bus : Bus) (address : String) : List Consumer :=
  (bus.consumers.lookup address).getD []

/-- Adds a consumer to an address. -/
def enlist (consumer : Consumer) (address : String) :
    List (String × List Consumer) → List (String × List Consumer)
  | [] => [(address, [consumer])]
  | (other, those) :: rest =>
    if other = address then (other, those ++ [consumer]) :: rest
    else (other, those) :: enlist consumer address rest

/-- Registers a consumer and gives its id. -/
def consume (bus : Bus) (address : String) (handler : Handler) : Nat × Bus :=
  (bus.next, { bus with
    consumers := enlist ⟨bus.next, handler⟩ address bus.consumers
    next := bus.next + 1 })

/-- Whether a consumer has an id. -/
def hasConsumer (bus : Bus) (id : Nat) : Bool :=
  bus.consumers.any fun entry => entry.2.any fun consumer => consumer.id == id

/-- Removes the consumer with an id; an address without consumers is forgotten. -/
def retire (bus : Bus) (id : Nat) : Bool × Bus :=
  (bus.hasConsumer id, { bus with
    consumers := (bus.consumers.map fun entry =>
      (entry.1, entry.2.filter fun consumer => consumer.id != id)).filter fun entry =>
        !entry.2.isEmpty })

/-- Who receives a message to an address.  A message to one consumer goes to each of them in
turn; the turn moves with every such message on the bus that has somebody to go to. -/
def audience (bus : Bus) (address : String) (mode : Mode) : List Consumer × Bus :=
  let consumers := bus.consumersOf address
  match mode with
  | .toAll => (consumers, bus)
  | .toOne =>
    match consumers[bus.turn % consumers.length]? with
    | none => ([], bus)
    | some consumer => ([consumer], { bus with turn := bus.turn + 1 })

/-! ## Hooks -/

/-- The hooks on one side. -/
def hooks (bus : Bus) : Side → List (Nat × Hook)
  | .outbound => bus.outbound
  | .inbound => bus.inbound

/-- Places a hook behind the others on its side and gives its id. -/
def place (bus : Bus) (side : Side) (hook : Hook) : Nat × Bus :=
  (bus.next,
    match side with
    | .outbound =>
      { bus with outbound := bus.outbound ++ [(bus.next, hook)], next := bus.next + 1 }
    | .inbound =>
      { bus with inbound := bus.inbound ++ [(bus.next, hook)], next := bus.next + 1 })

/-- Whether a hook has an id. -/
def hasHook (bus : Bus) (id : Nat) : Bool :=
  (bus.outbound ++ bus.inbound).any fun entry => entry.1 == id

/-- Removes the hook with an id. -/
def remove (bus : Bus) (id : Nat) : Bool × Bus :=
  (bus.hasHook id, { bus with
    outbound := bus.outbound.filter fun entry => entry.1 != id
    inbound := bus.inbound.filter fun entry => entry.1 != id })

/-! ## Replies -/

/-- What every reply address starts with. -/
def replyMark : String := "__bustrace.reply."

/-- The reply address with a number. -/
def replyAddress (number : Nat) : String := replyMark ++ Decimal.render number

/-- Whether an address is meant for replies. -/
def isReplyAddress (address : String) : Bool :=
  replyMark.toList.isPrefixOf address.toList

/-- Whether dropping a delivery looks for a handler to release. -/
def awaitsReply (delivery : Delivery) : Bool :=
  match delivery.message.reply with
  | some address => isReplyAddress address
  | none => false

/-- Leaves a handler at a new reply address. -/
def await (bus : Bus) (handler : Handler) (owned : List Delivery) : String × Bus :=
  let address := replyAddress bus.next
  (address, { bus with
    waiting := bus.waiting ++ [⟨address, handler, owned⟩]
    next := bus.next + 1 })

/-- The handler that waits at an address. -/
def waitingAt (bus : Bus) (address : String) : Option Waiting :=
  bus.waiting.find? fun waiting => waiting.address == address

/-- Takes the handler that waits at an address. -/
def takeWaiting (bus : Bus) (address : String) : Option Waiting × Bus :=
  (bus.waitingAt address, { bus with
    waiting := bus.waiting.filter fun waiting => waiting.address != address })

/-- Lets the handler that waits at an address go without a reply.  Nothing comes back if that
locks the bus for ever. -/
def release (bus : Bus) (address : String) : Option Bus :=
  match bus.takeWaiting address with
  | (some waiting, bus) => if waiting.owned.any awaitsReply then none else some bus
  | (none, bus) => some bus

/-- Drops a delivery.  If it is that of a request, the handler for its reply is released. -/
def drop (bus : Bus) (delivery : Delivery) : Option Bus :=
  match delivery.message.reply with
  | some address => if isReplyAddress address then bus.release address else some bus
  | none => some bus

/-- Drops deliveries in order. -/
def dropAll (bus : Bus) (deliveries : List Delivery) : Option Bus :=
  deliveries.foldlM drop bus

/-- How many handlers wait for a reply. -/
def pending (bus : Bus) : Nat := bus.waiting.length

end Bus

end CausalTrace
