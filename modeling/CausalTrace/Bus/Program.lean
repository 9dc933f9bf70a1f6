import CausalTrace.Message.ShortNames
import CausalTrace.Recording

/-!
# What consumers do

A consumer or a reply handler is given a delivery and then does what its program says.  A program
asks the bus for one thing at a time and goes on with the answer, so it may decide by anything it
learns.  Programs end; what calls itself without end is a handler that sends to its own address.

A delivery belongs to the program it was given to until it is dropped, put into a slot, or given
away to a reply handler.  What a program still owns at its end is dropped.
-/

namespace CausalTrace

/-- A message that was handed to a consumer; `number` tells deliveries apart. -/
structure Delivery where
  number : Nat
  message : Message
  deriving Repr, Inhabited

/-- Whether a message goes to one consumer of its address or to all of them. -/
inductive Mode where
  | toOne
  | toAll
  deriving DecidableEq, Repr, Inhabited

/-- A message that is about to be sent.  Without a lineage it carries no identity. -/
structure Draft where
  address : String
  body : Payload
  lineage : Option Lineage
  deriving Repr, Inhabited

/-- One thing that an edit hook does to each message. -/
inductive HeaderEdit where
  | set (name value : String)
  | add (name value : String)
  | remove (name : String)
  /-- Writes the message into the journal as it is. -/
  | note
  deriving DecidableEq, Repr, Inhabited

/-- What happens to each message on one side of the bus. -/
inductive Hook where
  /-- Captures the message for the recorder at a place. -/
  | capture (place : Nat) (direction : Direction)
  /-- Changes headers. -/
  | edit (name : String) (edits : List HeaderEdit)
  deriving DecidableEq, Repr, Inhabited

/-- The two sides of the bus on which hooks are placed. -/
inductive Side where
  | outbound
  | inbound
  deriving DecidableEq, Repr, Inhabited

/-- What comes of asking the bus for something. -/
inductive Answer where
  | done
  /-- There was nothing to do it with. -/
  | nothing
  /-- The delivery was no longer there. -/
  | noDelivery
  | flag (value : Bool)
  | count (value : Nat)
  | lineage (value : Lineage)
  /-- A sender reports where it sent, how many were reached and with which lineage. -/
  | sent (count : Nat) (address : String) (lineage : Lineage)
  deriving DecidableEq, Repr, Inhabited

/-- What is written down while messages travel. -/
inductive Entry where
  /-- A message was handed over. -/
  | delivered (who : String) (message : Message)
  /-- A hook saw a message. -/
  | hooked (who : String) (message : Message)
  /-- Someone did something. -/
  | acted (who action : String) (answer : Answer)
  deriving Repr, Inhabited

/-- The ids that come up in an entry, the id of a message before those of its parents. -/
def Entry.ids : Entry → List MessageId
  | delivered _ message | hooked _ message =>
    match message.causality with
    | some causality => causality.id :: causality.parents
    | none => []
  | acted _ _ (.lineage lineage) => lineage.parents
  | acted _ _ (.sent _ _ lineage) => lineage.parents
  | acted _ _ _ => []

/-- What a consumer, a reply handler or an outside caller does. -/
inductive Program where
  | finish (answer : Answer)
  /-- Registers a consumer; learns its id. -/
  | consume (address name : String) (handler : Delivery → Program) (next : Nat → Program)
  /-- Removes a consumer; learns whether there was one. -/
  | retire (id : Nat) (next : Bool → Program)
  /-- Sends a message; learns how many deliveries were made. -/
  | dispatch (draft : Draft) (mode : Mode) (next : Nat → Program)
  /-- Sends a message to one consumer and leaves a handler for the reply, which takes over the
  deliveries with the given numbers. -/
  | request (draft : Draft) (name : String) (onReply : Delivery → Program) (given : List Nat)
    (next : Nat → Program)
  /-- Puts a delivery into a slot.  What was in the slot is dropped. -/
  | hold (slot : String) (number : Nat) (next : Program)
  /-- Takes the delivery out of a slot. -/
  | take (slot : String) (next : Option Delivery → Program)
  /-- Looks at the delivery in a slot. -/
  | peek (slot : String) (next : Option Delivery → Program)
  | drop (number : Nat) (next : Program)
  /-- Learns how many reply handlers wait. -/
  | pending (next : Nat → Program)
  /-- Places a hook; learns its id. -/
  | hook (side : Side) (hook : Hook) (next : Nat → Program)
  /-- Removes a hook; learns whether there was one. -/
  | unhook (id : Nat) (next : Bool → Program)
  | note (entry : Entry) (next : Program)
  /-- Learns the short names of the ids that have come up. -/
  | recall (next : ShortNames → Program)
  /-- Has ids come up before they are written down. -/
  | mention (ids : List MessageId) (next : Program)
  /-- Learns a number that nobody else has. -/
  | mark (next : Nat → Program)
  /-- Learns how often the same counter was asked for before. -/
  | tally (counter : Nat × Nat) (next : Nat → Program)
  deriving Inhabited

/-- A program under a name, waiting for a delivery. -/
structure Handler where
  name : String
  run : Delivery → Program
  deriving Inhabited

end CausalTrace
