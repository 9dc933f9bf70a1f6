import CausalTrace.Proofs.Bus.Tracing
import CausalTrace.Proofs.Bus.Releases

/-!
# Who receives what is sent

A message goes to the handler that waits at its address, or else to one consumer of the address or
to all of them.  `Bus.receiver` tells to whom.  `Traffic.postings` tells what a step does with
addresses: it sends a message to one, or hands a new one out for a reply.

A history is what happens at a bus from some moment on.  Outside callers come one after the other,
consumers and handlers run within their dispatches, and in between time goes on, recorders work and
pipelines come and go.  Its postings are kept with the newest first.
-/

namespace CausalTrace

/-- Who receives a message. -/
inductive Receiver where
  /-- The handler that waits for a reply. -/
  | handler
  /-- One of the consumers, by its place among them. -/
  | oneOf (place : Nat)
  | everyone
  | nobody
  deriving DecidableEq, Repr

/-- What is done with an address. -/
inductive Posting where
  /-- A handler waits at it, which nobody has had before, for the reply to a request. -/
  | asked (address : String)
  /-- A message to it was sent. -/
  | sent (address : String) (receiver : Receiver)
  deriving DecidableEq, Repr

namespace Bus

/-- Who receives a message to an address. -/
def receiver (bus : Bus) (address : String) (mode : Mode) : Receiver :=
  match bus.waitingAt address, bus.consumersOf address, mode with
  | some _, _, _ => .handler
  | none, [], _ => .nobody
  | none, _ :: _, .toAll => .everyone
  | none, first :: others, .toOne => .oneOf (bus.turn % (first :: others).length)

/-- What is done with addresses to meet a demand, the newest posting first. -/
def postings (bus : Bus) : Demand → List Posting
  | .reach address mode => [.sent address (bus.receiver address mode)]
  | .ask handler owned address =>
    let (replyAddress, bus) := bus.await handler owned
    [.sent address (bus.receiver address .toOne), .asked replyAddress]
  | _ => []

/-- Those who are a receiver, with the deliveries that a handler brings along. -/
def received (bus : Bus) (address : String) : Receiver → List (Handler × List Delivery)
  | .handler =>
    (bus.waitingAt address).toList.map fun waiting => (waiting.handler, waiting.owned)
  | .oneOf place =>
    (bus.consumersOf address)[place]?.toList.map fun consumer => (consumer.handler, [])
  | .everyone => (bus.consumersOf address).map fun consumer => (consumer.handler, [])
  | .nobody => []

end Bus

namespace Traffic

variable {traffic after : Traffic}

/-- What the next step does with addresses. -/
def postings (traffic : Traffic) : List Posting := traffic.bus.postings traffic.demand

/-- A message is handed to those who are its receiver. -/
theorem targets_eq (traffic : Traffic) (message : Message) (mode : Mode) :
    traffic.targets message mode =
      (traffic.bus.received message.address (traffic.bus.receiver message.address mode),
        { traffic with bus := traffic.bus.reached message.address mode }) := by
  simp only [targets, Bus.takeWaiting, Bus.reached, Bus.receiver, Bus.audience]
  cases there : traffic.bus.waitingAt message.address with
  | some waiting => simp [Bus.received, there]
  | none =>
    cases consumers : traffic.bus.consumersOf message.address with
    | nil => cases mode <;> simp [Bus.received]
    | cons first others =>
      cases mode with
      | toAll => simp [Bus.received, consumers]
      | toOne =>
        have inside : traffic.bus.turn % (first :: others).length < (first :: others).length :=
          Nat.mod_lt _ (Nat.succ_pos _)
        simp only [List.getElem?_eq_getElem inside, Bus.received, consumers]
        rfl

/-- What happens at a bus from some moment on, in states that are fit for it. -/
inductive History (fit : Traffic → Prop) (start : Traffic) :
    List Posting → Traffic → Prop where
  | here : History fit start [] start
  | step {postings traffic after} (prior : History fit start postings traffic) (isFit : fit traffic)
      (stepped : traffic.step = some after) : History fit start (traffic.postings ++ postings) after
  /-- An outside caller begins a program while nothing is under way. -/
  | begins {postings traffic} (prior : History fit start postings traffic)
      (idle : traffic.isIdle = true) (program : Program) :
      History fit start postings (traffic.start program)
  /-- Recorders work and pipelines come and go. -/
  | attends {postings traffic after} (prior : History fit start postings traffic)
      (attended : Attends traffic after) : History fit start postings after

namespace History

variable {fit : Traffic → Prop} {start middle : Traffic} {postings further : List Posting}

/-- A history goes on with another one. -/
theorem trans (first : History fit start postings middle)
    (second : History fit middle further traffic) :
    History fit start (further ++ postings) traffic := by
  induction second with
  | here => exact first
  | step _ isFit stepped ih =>
    rw [List.append_assoc]
    exact .step ih isFit stepped
  | begins _ idle program ih => exact .begins ih idle program
  | attends _ attended ih => exact .attends ih attended

end History

/-- What so many steps do with addresses, the newest posting first. -/
def postingsOf : Nat → Traffic → List Posting
  | 0, _ => []
  | limit + 1, traffic =>
    match traffic.step with
    | none => []
    | some after => postingsOf limit after ++ traffic.postings

/-- A run is a history. -/
theorem history_run (fit : Traffic → Prop) (limit : Nat) (traffic : Traffic)
    (fits : ∀ taken < limit, fit (run taken traffic)) :
    History fit traffic (traffic.postingsOf limit) (traffic.run limit) := by
  induction limit generalizing traffic with
  | zero => exact .here
  | succ limit ih =>
    rw [postingsOf, run]
    cases stepped : traffic.step with
    | none => exact .here
    | some after =>
      have first : History fit traffic (traffic.postings ++ []) after :=
        .step .here (fits 0 (Nat.succ_pos limit)) stepped
      rw [List.append_nil] at first
      refine first.trans (ih after fun taken less => ?_)
      have later := fits (taken + 1) (Nat.succ_lt_succ less)
      rwa [run, stepped] at later

end Traffic

end CausalTrace
