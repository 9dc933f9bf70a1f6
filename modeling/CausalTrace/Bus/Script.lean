import CausalTrace.Bus.Traffic

/-!
# Scripts

A script is a program written down as data: a list of actions on a delivery and on the bus.
After each action of a script its answer is noted in the journal.  An action may be limited to
the first times it is reached; every registration of a script counts anew.

What is sent through the delivery descends from it, so it has to be there still.  Putting it
aside or dropping it once more does nothing.

The parents in a lineage may be given by their short names.  What a name stands for is found out
when the action is reached.
-/

namespace CausalTrace

/-- One choice of what a sender says about the descent of its messages. -/
inductive SenderStep where
  | label (text : String)
  | lineage (lineage : Lineage)
  /-- Descend from the delivery in a slot; without a slot, from a message without an identity. -/
  | context (slot : Option String)
  deriving DecidableEq, Repr, Inhabited

/-- How a sender sends. -/
inductive Via where
  /-- To one consumer or to all of them, as the sender was made. -/
  | write
  | send
  | request
  deriving DecidableEq, Repr, Inhabited

/-- One thing that a script does. -/
inductive Action where
  /-- Only the first times it is reached. -/
  | limited (limit : Nat) (action : Action)
  | reply (body : Payload)
  | forward (mode : Mode) (address : String) (body : Payload)
  | forwardRequest (address : String) (body : Payload) (onReply : List Action)
  | forwardSender (address : String) (steps : List SenderStep) (via : Via) (body : Payload)
    (onReply : List Action)
  /-- Tells the lineage of what descends from the delivery. -/
  | options
  | hold (slot : String)
  | drop
  | consumer (address name : String) (script : List Action)
  | removeConsumer (id : Nat)
  | send (mode : Mode) (address : String) (body : Payload) (lineage : Option Lineage)
  | request (address : String) (body : Payload) (lineage : Option Lineage) (onReply : List Action)
  | sender (mode : Mode) (address : String) (steps : List SenderStep) (via : Via)
    (body : Payload) (onReply : List Action)
  | pending
  | intercept (side : Side) (hook : Hook)
  | removeInterceptor (id : Nat)
  /-- Takes the delivery out of a slot and does a script with it. -/
  | held (slot : String) (script : List Action)
  | dropHeld (slot : String)
  deriving Inhabited

namespace Action

/-- The word under which an action is noted. -/
def word : Action → String
  | limited _ action => action.word
  | reply _ => "reply"
  | forward .toOne _ _ => "fwd"
  | forward .toAll _ _ => "fwd_publish"
  | forwardRequest _ _ _ => "fwd_request"
  | forwardSender _ _ _ _ _ => "fwd_sender"
  | options => "options"
  | hold _ => "hold"
  | drop => "drop"
  | consumer _ _ _ => "consumer"
  | removeConsumer _ => "remove_consumer"
  | send .toOne _ _ _ => "send"
  | send .toAll _ _ _ => "publish"
  | request _ _ _ _ => "request"
  | sender .toOne _ _ _ _ _ => "sender"
  | sender .toAll _ _ _ _ _ => "publisher"
  | pending => "pending"
  | intercept _ _ => "intercept"
  | removeInterceptor _ => "remove_interceptor"
  | held _ _ => "held"
  | dropHeld _ => "drop_held"

end Action

namespace Script

/-- The name under which reply handlers are noted. -/
def replyName : String := "reply"

/-- Goes on with the lineage that a sender's steps lead to, or, if a slot is empty, otherwise. -/
def choose : List SenderStep → Lineage → (otherwise : Program) → (Lineage → Program) → Program
  | [], lineage, _, next => next lineage
  | .label text :: rest, lineage, otherwise, next =>
    choose rest (lineage.withLabel text) otherwise next
  | .lineage other :: rest, _, otherwise, next =>
    .recall fun names => choose rest (names.lineage other) otherwise next
  | .context none :: rest, lineage, otherwise, next => choose rest lineage otherwise next
  | .context (some slot) :: rest, lineage, otherwise, next =>
    .peek slot fun
      | none => otherwise
      | some delivery =>
        choose rest
          (match delivery.message.causality with
            | some parent => lineage.descend parent
            | none => lineage)
          otherwise next

/-- Sends as a sender does. -/
def sendVia (via : Via) (mode : Mode) (draft : Draft) (onReply : Delivery → Program)
    (next : Nat → Program) : Program :=
  match via with
  | .write => .dispatch draft mode next
  | .send => .dispatch draft .toOne next
  | .request => .request draft replyName onReply [] next

/-- Sends through a sender and reports.  The lineage is looked at before the message is sent, so
its ids come up before those of the deliveries. -/
def useSender (mode : Mode) (address : String) (steps : List SenderStep) (start : Lineage)
    (via : Via) (body : Payload) (onReply : Delivery → Program) (next : Answer → Program) :
    Program :=
  choose steps start (next .noDelivery) fun lineage =>
    .mention lineage.parents (sendVia via mode ⟨address, body, some lineage⟩ onReply fun count =>
      next (.sent count address lineage))

/-- Goes on with the delivery, if there is one. -/
def withDelivery (own : Option Delivery) (next : Answer → Option Delivery → Program)
    (use : Delivery → Program) : Program :=
  match own with
  | none => next .noDelivery none
  | some delivery => use delivery

/-- The end of a handler.  A delivery that is left over is dropped with it. -/
def ended (_ : Option Delivery) : Program := .finish .done

mutual

/-- The program of one action.  `own` is the delivery that it can use; what is left of it goes
on with the answer. -/
def perform (own : Option Delivery) (action : Action)
    (next : Answer → Option Delivery → Program) : Program :=
  match action with
  | .limited _ action => perform own action next
  | .reply body => withDelivery own next fun delivery =>
    match delivery.message.reply with
    | none => next (.flag false) own
    | some address =>
      .dispatch ⟨address, body, some (Lineage.below delivery.message)⟩ .toOne fun count =>
        next (.flag (0 < count)) own
  | .forward mode address body => withDelivery own next fun delivery =>
    .dispatch ⟨address, body, some (Lineage.below delivery.message)⟩ mode fun count =>
      next (.count count) own
  | .forwardRequest address body onReply => withDelivery own next fun delivery =>
    .mark fun mark =>
      .request ⟨address, body, some (Lineage.below delivery.message)⟩ replyName
        (fun delivery => follow replyName mark 0 onReply (some delivery) ended) [] fun count =>
          next (.count count) own
  | .forwardSender address steps via body onReply => withDelivery own next fun delivery =>
    .mark fun mark =>
      useSender .toOne address steps (Lineage.below delivery.message) via body
        (fun delivery => follow replyName mark 0 onReply (some delivery) ended) fun answer =>
          next answer own
  | .options => withDelivery own next fun delivery =>
    next (.lineage (Lineage.below delivery.message)) own
  | .hold slot =>
    match own with
    | none => next .done none
    | some delivery => .hold slot delivery.number (next .done none)
  | .drop =>
    let ended : Program := .pending fun count => next (.count count) none
    match own with
    | none => ended
    | some delivery => .drop delivery.number ended
  | .consumer address name script =>
    .mark fun mark =>
      .consume address name (fun delivery => follow name mark 0 script (some delivery) ended)
        fun id => next (.count id) own
  | .removeConsumer id => .retire id fun found => next (.flag found) own
  | .send mode address body lineage =>
    .recall fun names =>
      .dispatch ⟨address, body, lineage.map names.lineage⟩ mode fun count =>
        next (.count count) own
  | .request address body lineage onReply =>
    .recall fun names => .mark fun mark =>
      .request ⟨address, body, lineage.map names.lineage⟩ replyName
        (fun delivery => follow replyName mark 0 onReply (some delivery) ended) [] fun count =>
          next (.count count) own
  | .sender mode address steps via body onReply =>
    .mark fun mark =>
      useSender mode address steps Lineage.root via body
        (fun delivery => follow replyName mark 0 onReply (some delivery) ended) fun answer =>
          next answer own
  | .pending => .pending fun count => next (.count count) own
  | .intercept side hook => .hook side hook fun id => next (.count id) own
  | .removeInterceptor id => .unhook id fun found => next (.flag found) own
  | .held slot script =>
    .take slot fun
      | none => next .nothing own
      | some delivery =>
        .mark fun mark =>
          .note (.delivered slot delivery.message)
            (follow slot mark 0 script (some delivery) fun
              | none => next .done own
              | some delivery => .drop delivery.number (next .done own))
  | .dropHeld slot =>
    .take slot fun
      | none => next (.flag false) own
      | some delivery => .drop delivery.number (next (.flag true) own)

/-- The program of a script.  `place` counts its actions. -/
def follow (who : String) (mark place : Nat) (script : List Action) (own : Option Delivery)
    (next : Option Delivery → Program) : Program :=
  match script with
  | [] => next own
  | action :: rest =>
    let go : Program := perform own action fun answer own =>
      .note (.acted who action.word answer) (follow who mark (place + 1) rest own next)
    match action with
    | .limited limit _ =>
      .tally (mark, place) fun reached =>
        if reached < limit then go else follow who mark (place + 1) rest own next
    | _ => go

end

end Script

/-- Does one action as an outside caller; gives the answer, what was written down, and the
traffic afterwards. -/
def Traffic.act (traffic : Traffic) (action : Action) : Answer × List Entry × Traffic :=
  let traffic := { traffic with journal := [] }.perform
    (Script.perform none action fun answer _ => .finish answer)
  (traffic.answer, traffic.journal.reverse, traffic)

end CausalTrace
