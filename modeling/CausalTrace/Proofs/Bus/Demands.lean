import CausalTrace.Proofs.Bus.Capturing

/-!
# What a step wants of the register

A step of traffic reaches the register of its bus in few ways: it enlists or retires a consumer,
finds out who receives a message, leaves a handler for a reply, lets handlers go, or changes hooks.
`Traffic.demand` tells which of them the next step will be, and `Traffic.step_meets` that the bus
after the step is the one in which just this demand is met.  A demand that cannot be met locks the
bus.

So what holds of a bus after every demand holds of it after every step, whatever runs on it.  Hooks
are an example: only a program that asks for it changes them.
-/

namespace CausalTrace

namespace Bus

/-! ## Demands -/

/-- What a step of traffic can want of the register. -/
inductive Demand where
  | nothing
  | consume (address : String) (handler : Handler)
  | retire (id : Nat)
  /-- Who receives a message to an address. -/
  | reach (address : String) (mode : Mode)
  /-- A new reply address for a handler, and then who receives the request. -/
  | ask (handler : Handler) (owned : List Delivery) (address : String)
  /-- Nobody received a request, so the handler for its reply goes. -/
  | giveUp (address : String)
  | drop (deliveries : List Delivery)
  | place (side : Side) (hook : Hook)
  | remove (id : Nat)

/-- The bus after it was found out who receives a message. -/
def reached (bus : Bus) (address : String) (mode : Mode) : Bus :=
  match bus.takeWaiting address with
  | (some _, bus) => bus
  | (none, _) => (bus.audience address mode).2

/-- The bus after a demand, or nothing if the bus locks itself. -/
def meet (bus : Bus) : Demand → Option Bus
  | .nothing => some bus
  | .consume address handler => some (bus.consume address handler).2
  | .retire id => some (bus.retire id).2
  | .reach address mode => some (bus.reached address mode)
  | .ask handler owned address => some ((bus.await handler owned).2.reached address .toOne)
  | .giveUp address => bus.release address
  | .drop deliveries => bus.dropAll deliveries
  | .place side hook => some (bus.place side hook).2
  | .remove id => some (bus.remove id).2

/-- A handler can be let go unless it owns the delivery of a request. -/
theorem release_eq (bus : Bus) (address : String) :
    bus.release address =
      if (bus.waitingAt address).any fun waiting => waiting.owned.any awaitsReply then none
      else some (bus.takeWaiting address).2 := by
  unfold release takeWaiting
  cases bus.waitingAt address <;> rfl

end Bus

/-- What a program wants of the register that does the next thing. -/
def Program.demand (slots : List (String × Delivery)) (owned : List Delivery) :
    Program → Bus.Demand
  | .finish _ => .drop owned
  | .consume address name handler _ => .consume address ⟨name, handler⟩
  | .retire id _ => .retire id
  | .dispatch draft mode _ => .reach draft.address mode
  | .request draft name onReply given _ =>
    .ask ⟨name, onReply⟩ (owned.partition fun delivery => given.contains delivery.number).1
      draft.address
  | .hold slot number _ =>
    match (Traffic.separate owned number).1 with
    | [] => .nothing
    | _ :: _ => .drop ((slots.filter fun entry => entry.1 == slot).map Prod.snd)
  | .drop number _ => .drop (Traffic.separate owned number).1
  | .hook side placed _ => .place side placed
  | .unhook id _ => .remove id
  | _ => .nothing

/-- What the end of a dispatch wants of the register. -/
def Call.demand (call : Call) : Bus.Demand :=
  match call.targets, call.replyAt with
  | [], some address => if call.count = 0 then .giveUp address else .nothing
  | _, _ => .nothing

namespace Traffic

variable {traffic after : Traffic}

/-- What the next step wants of the register. -/
def demand (traffic : Traffic) : Bus.Demand :=
  match traffic.running, traffic.calls with
  | some running, _ => running.program.demand traffic.slots running.owned
  | none, call :: _ => call.demand
  | none, [] => .nothing

/-- Traffic that goes on with a bus, or is stuck with what the bus was before. -/
structure Meets (after : Traffic) (before : Bus) (met : Option Bus) : Prop where
  bus : after.bus = met.getD before
  stuck : after.stuck = met.isNone

/-! ## Steps -/

/-- Hooks change the headers of a message, and of the traffic what is recorded and written down. -/
theorem applyHooks_eq (traffic : Traffic) (side : Side) (message : Message) :
    ∃ headers recording journal names, traffic.applyHooks side message =
      ({ message with headers := headers },
        { traffic with recording := recording, journal := journal, names := names }) := by
  have edits (who : String) (edits : List HeaderEdit) (state : Message × Traffic) :
      ∃ headers journal names, edits.foldl (edit who) state =
        ({ state.1 with headers := headers },
          { state.2 with journal := journal, names := names }) := by
    induction edits generalizing state with
    | nil => exact ⟨_, _, _, rfl⟩
    | cons change rest ih =>
      obtain ⟨headers, journal, names, same⟩ := ih (edit who state change)
      rw [List.foldl_cons, same]
      cases change <;> exact ⟨_, _, _, rfl⟩
  -- Hooks run one after the other, each on what the one before has left.
  have each (hooks : List Hook) (state : Message × Traffic) :
      ∃ headers recording journal names, hooks.foldl applyHook state =
        ({ state.1 with headers := headers },
          { state.2 with recording := recording, journal := journal, names := names }) := by
    induction hooks generalizing state with
    | nil => exact ⟨_, _, _, _, rfl⟩
    | cons hook rest ih =>
      obtain ⟨headers, recording, journal, names, same⟩ := ih (applyHook state hook)
      rw [List.foldl_cons, same]
      cases hook with
      | edit who changes =>
        obtain ⟨_, _, _, edited⟩ := edits who changes state
        rw [applyHook, edited]
        exact ⟨_, _, _, _, rfl⟩
      | capture place direction =>
        have resembles := state.2.recording.resembles_capture place direction state.1
        refine ⟨headers, recording, journal, names, Prod.ext ?_ rfl⟩
        simp only [applyHook, resembles.address, resembles.reply, resembles.body]
  exact each _ (message, traffic)

/-- What hooks do to a message changes neither where it goes nor the bus, and locks nothing. -/
theorem applyHooks_aside (traffic : Traffic) (side : Side) (message : Message) :
    (traffic.applyHooks side message).1.address = message.address ∧
      (traffic.applyHooks side message).2.bus = traffic.bus ∧
      (traffic.applyHooks side message).2.stuck = traffic.stuck := by
  obtain ⟨headers, recording, journal, names, same⟩ := traffic.applyHooks_eq side message
  rw [same]
  exact ⟨rfl, rfl, rfl⟩

/-- Finding out who receives a message is what is done to the bus, and does not lock it. -/
theorem targets_reached (traffic : Traffic) (message : Message) (mode : Mode) :
    (traffic.targets message mode).2.bus = traffic.bus.reached message.address mode ∧
      (traffic.targets message mode).2.stuck = traffic.stuck := by
  unfold targets Bus.reached
  cases traffic.bus.takeWaiting message.address with
  | mk waiting bus => cases waiting <;> exact ⟨rfl, rfl⟩

/-- Sending does nothing more to the bus than to find out who receives the message. -/
theorem send_reached (traffic : Traffic) (message : Message) (mode : Mode)
    (owned : List Delivery) (next : Nat → Program) :
    (traffic.send message mode owned next).bus = traffic.bus.reached message.address mode ∧
      (traffic.send message mode owned next).stuck = traffic.stuck := by
  obtain ⟨address, bus, stuck⟩ := traffic.applyHooks_aside .outbound message
  obtain ⟨reached, free⟩ := (traffic.applyHooks .outbound message).2.targets_reached
    (traffic.applyHooks .outbound message).1 mode
  rw [address, bus] at reached
  exact ⟨reached, free.trans stuck⟩

/-- Hooks that see a draft leave its address and the bus alone. -/
theorem prepare_aside (traffic : Traffic) (draft : Draft) (reply : Option String) :
    (traffic.prepare draft reply).1.address = draft.address ∧
      (traffic.prepare draft reply).2.bus = traffic.bus ∧
      (traffic.prepare draft reply).2.stuck = traffic.stuck := by
  unfold prepare
  split <;> exact ⟨rfl, rfl, rfl⟩

/-- A message of a draft is sent. -/
theorem meets_send (free : traffic.stuck = false) (draft : Draft) (reply : Option String)
    (mode : Mode) (owned : List Delivery) (next : Nat → Program) (before : Bus) :
    ((traffic.prepare draft reply).2.send (traffic.prepare draft reply).1 mode owned next).Meets
      before (some (traffic.bus.reached draft.address mode)) := by
  obtain ⟨address, bus, stuck⟩ := traffic.prepare_aside draft reply
  obtain ⟨reached, still⟩ := (traffic.prepare draft reply).2.send_reached
    (traffic.prepare draft reply).1 mode owned next
  rw [address, bus] at reached
  exact ⟨reached, still.trans (stuck.trans free)⟩

/-- Going on with a bus is to be stuck if there is none. -/
theorem meets_andThen (free : traffic.stuck = false) (bus : Option Bus) :
    (traffic.andThen bus).Meets traffic.bus bus := by
  cases bus with
  | none => exact ⟨rfl, rfl⟩
  | some bus => exact ⟨rfl, free⟩

/-- A program that does the next thing meets what it wants of the register. -/
theorem meets_advance (free : traffic.stuck = false) (owned : List Delivery)
    (program : Program) :
    (traffic.advance owned program).Meets traffic.bus
      (traffic.bus.meet (program.demand traffic.slots owned)) := by
  cases program with
  | finish answer =>
    simp only [advance, finish, Program.demand, Bus.meet]
    refine meets_andThen ?_ _
    exact free
  | dispatch draft mode next => exact meets_send free draft none mode owned next _
  | request draft name onReply given next =>
    simp only [advance, Program.demand, Bus.meet]
    refine meets_send ?_ draft _ .toOne _ next _
    exact free
  | hold slot number next =>
    simp only [advance, Program.demand]
    cases (separate owned number).1 with
    | nil => exact ⟨rfl, free⟩
    | cons delivery rest =>
      refine meets_andThen ?_ _
      exact free
  | drop number next =>
    simp only [advance, Program.demand, Bus.meet]
    refine meets_andThen ?_ _
    exact free
  | _ => exact ⟨rfl, free⟩

/-- A dispatch that ends meets what its end wants of the register. -/
theorem meets_conclude (free : traffic.stuck = false) {call : Call} (served : call.targets = []) :
    (traffic.conclude call).Meets traffic.bus (traffic.bus.meet call.demand) := by
  obtain ⟨message, targets, count, replyAt, owned, next⟩ := call
  obtain rfl : targets = [] := served
  cases replyAt with
  | none => exact ⟨rfl, free⟩
  | some address =>
    simp only [conclude, Call.demand]
    split
    · refine meets_andThen ?_ _
      exact free
    · exact ⟨rfl, free⟩

/-- What a step is: the next thing that a program does, or the innermost dispatch goes on, in which
everybody has been served or somebody has not. -/
theorem step_cases (stepped : traffic.step = some after) :
    (∃ running, traffic.running = some running ∧
        after = traffic.advance running.owned running.program) ∨
      ∃ call outer, traffic.running = none ∧ traffic.calls = call :: outer ∧
        (call.targets = [] ∧ after = { traffic with calls := outer }.conclude call ∨
          ∃ handler brought later, call.targets = (handler, brought) :: later ∧
            after = { traffic with calls := { call with targets := later } :: outer }.serve
              call.message handler brought) := by
  unfold step at stepped
  split at stepped
  next => cases stepped
  next =>
    split at stepped
    next running there =>
      cases stepped
      exact .inl ⟨running, there, rfl⟩
    next idle =>
      cases calls : traffic.calls with
      | nil =>
        rw [continue?, calls] at stepped
        cases stepped
      | cons call outer =>
        rw [continue?, calls] at stepped
        refine .inr ⟨call, outer, idle, rfl, ?_⟩
        dsimp only at stepped
        split at stepped
        next served =>
          cases stepped
          exact .inl ⟨served, rfl⟩
        next handler brought later unserved =>
          cases stepped
          exact .inr ⟨handler, brought, later, unserved, rfl⟩

/-- What is stuck takes no step. -/
theorem free_of_step (stepped : traffic.step = some after) : traffic.stuck = false := by
  rw [Bool.eq_false_iff]
  intro stuck
  rw [step, if_pos stuck] at stepped
  cases stepped

/-- The bus after a step is the one in which the demand of the step is met.  If it cannot be
met, the bus is stuck. -/
theorem step_meets (stepped : traffic.step = some after) :
    after.Meets traffic.bus (traffic.bus.meet traffic.demand) := by
  have free := free_of_step stepped
  unfold demand
  rcases step_cases stepped with ⟨running, there, rfl⟩ | ⟨call, outer, idle, calls, goesOn⟩
  · rw [there]
    exact meets_advance free running.owned running.program
  · rw [idle, calls]
    rcases goesOn with ⟨served, rfl⟩ | ⟨handler, brought, later, unserved, rfl⟩
    · have outermost : { traffic with calls := outer }.stuck = false := free
      exact meets_conclude outermost served
    · have nothing : call.demand = .nothing := by simp only [Call.demand, unserved]
      obtain ⟨-, bus, stuck⟩ := applyHooks_aside
        { traffic with calls := { call with targets := later } :: outer } .inbound call.message
      simp only [nothing, Bus.meet]
      exact ⟨bus, stuck.trans free⟩

end Traffic

end CausalTrace
