import CausalTrace.Bus.Script
import CausalTrace.Proofs.Bus.Sights

/-!
# Sending through a delivery

Whoever has been given a delivery can reply to it, send and publish further messages, ask a further
question, and make a sender for an address.  Each of these drafts its message in the same way: it
descends from the message that was delivered, alone.
-/

namespace CausalTrace

/-- A message that descends from one that was delivered. -/
def Delivery.draft (delivery : Delivery) (address : String) (body : Payload) : Draft :=
  ⟨address, body, some (Lineage.below delivery.message)⟩

namespace Program

/-- Replies through a delivery; learns whether somebody received the reply. -/
def reply (delivery : Delivery) (body : Payload) (next : Bool → Program) : Program :=
  match delivery.message.reply with
  | none => next false
  | some address =>
    .dispatch (delivery.draft address body) .toOne fun count => next (0 < count)

/-- Sends through a delivery to one consumer of an address, or publishes to all of them. -/
def forward (delivery : Delivery) (mode : Mode) (address : String) (body : Payload)
    (next : Nat → Program) : Program :=
  .dispatch (delivery.draft address body) mode next

/-- Asks through a delivery. -/
def forwardRequest (delivery : Delivery) (address : String) (body : Payload) (name : String)
    (onReply : Delivery → Program) (next : Nat → Program) : Program :=
  .request (delivery.draft address body) name onReply [] next

/-- Sends through a sender that was made from a delivery and that nobody told of another descent. -/
def forwardSender (delivery : Delivery) (address : String) (via : Via) (body : Payload)
    (onReply : Delivery → Program) (next : Nat → Program) : Program :=
  Script.sendVia via .toOne (delivery.draft address body) onReply next

/-- The next thing that a program does is to send what descends from a delivery. -/
inductive SendsThrough (delivery : Delivery) : Program → Prop where
  | dispatch (address : String) (body : Payload) (mode : Mode) (next : Nat → Program) :
      SendsThrough delivery (.dispatch (delivery.draft address body) mode next)
  | request (address : String) (body : Payload) (name : String) (onReply : Delivery → Program)
      (given : List Nat) (next : Nat → Program) :
      SendsThrough delivery (.request (delivery.draft address body) name onReply given next)

variable {delivery : Delivery} {address : String} {body : Payload}

/-- Whoever replies where a reply is expected sends through the delivery. -/
theorem sendsThrough_reply (expected : delivery.message.reply = some address)
    (next : Bool → Program) : SendsThrough delivery (reply delivery body next) := by
  unfold reply
  rw [expected]
  exact .dispatch ..

/-- Sending or publishing through a delivery sends a message that descends from it. -/
theorem sendsThrough_forward (mode : Mode) (next : Nat → Program) :
    SendsThrough delivery (forward delivery mode address body next) :=
  .dispatch ..

/-- A further request descends from the delivery through which it is made. -/
theorem sendsThrough_forwardRequest (name : String) (onReply : Delivery → Program)
    (next : Nat → Program) :
    SendsThrough delivery (forwardRequest delivery address body name onReply next) :=
  .request ..

/-- However a sender sends, it sends through the delivery that it was made from. -/
theorem sendsThrough_forwardSender (via : Via) (onReply : Delivery → Program)
    (next : Nat → Program) :
    SendsThrough delivery (forwardSender delivery address via body onReply next) := by
  cases via with
  | write | send => exact .dispatch ..
  | request => exact .request ..

/-- A program that sends through a delivery shows a message drafted to descend from it. -/
theorem SendsThrough.asking {program : Program} (through : program.SendsThrough delivery)
    (traffic : Traffic) (owned : List Delivery) :
    ∃ draft message offers, traffic.asking owned program = some (.sent draft message offers) ∧
      draft.lineage = some (.below delivery.message) := by
  cases through with
  | dispatch address body mode next => exact ⟨delivery.draft address body, _, _, rfl, rfl⟩
  | request address body name onReply given next =>
    exact ⟨delivery.draft address body, _, _, rfl, rfl⟩

end Program

/-! ## Scripts send in these ways -/

namespace Script

variable (delivery : Delivery) (address : String) (body : Payload)
  (next : Answer → Option Delivery → Program)

/-- In a script, replying is replying through the delivery at hand. -/
theorem perform_reply :
    perform (some delivery) (.reply body) next =
      Program.reply delivery body fun value => next (.flag value) (some delivery) := by
  cases reply : delivery.message.reply <;>
    simp [perform, withDelivery, Program.reply, Delivery.draft, reply]

/-- In a script, sending on and publishing on go through the delivery at hand. -/
theorem perform_forward (mode : Mode) :
    perform (some delivery) (.forward mode address body) next =
      Program.forward delivery mode address body fun count =>
        next (.count count) (some delivery) := by
  simp only [perform, withDelivery, Program.forward, Delivery.draft]

/-- In a script, asking on goes through the delivery at hand, and the reply is handled by a
script of its own. -/
theorem perform_forwardRequest (onReply : List Action) :
    perform (some delivery) (.forwardRequest address body onReply) next =
      .mark fun mark => Program.forwardRequest delivery address body replyName
        (fun reply => follow replyName mark 0 onReply (some reply) ended) fun count =>
          next (.count count) (some delivery) := by
  simp only [perform, withDelivery, Program.forwardRequest, Delivery.draft]

/-- A sender without further steps has the ids of its lineage come up before it sends. -/
theorem perform_forwardSender (via : Via) (onReply : List Action) :
    let lineage := Lineage.below delivery.message
    perform (some delivery) (.forwardSender address [] via body onReply) next =
      .mark fun mark => .mention lineage.parents
        (Program.forwardSender delivery address via body
          (fun reply => follow replyName mark 0 onReply (some reply) ended) fun count =>
            next (.sent count address lineage) (some delivery)) := by
  simp only [perform, withDelivery, useSender, choose, Program.forwardSender, Delivery.draft]

end Script

end CausalTrace
