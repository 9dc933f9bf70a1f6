import CausalTrace.Proofs.Bus.Receivers
import Mathlib.Data.List.Nodup

/-!
# Who has the deliveries

Every delivery that there is lies in a slot or belongs to a program, which runs or waits for a
dispatch, or a handler brings it along to which a message is about to be handed.  A step hands over
at most one new delivery and drops those that it is said to drop; all others go from one place to
another.

A request that is under way has no delivery yet.  Its dispatch has still to hand it over, or to give
it up if nobody receives it.  So the reply address of a request goes from its dispatch to a delivery
and with this one until it is dropped.

All this is so if no handler owns the delivery of another message.
-/

namespace CausalTrace

/-- The deliveries that are bound up with a dispatch. -/
def Call.deliveries (call : Call) : List Delivery := call.owned ++ call.targets.flatMap Prod.snd

/-- The reply addresses that deliveries of requests have. -/
def repliesOf (deliveries : List Delivery) : List String :=
  deliveries.filterMap (·.message.reply)

/-- The reply addresses of what a dispatch has still to hand over or to give up. -/
def Call.stakes (call : Call) : List String :=
  (call.targets.flatMap fun _ => call.message.reply.toList) ++
    if call.count = 0 then call.replyAt.toList else []

/-- While nobody has been served, a request is still to be handed over or to be given up. -/
theorem Call.stakes_sent {call : Call} (unserved : call.count = call.targets.length)
    (same : call.message.reply = call.replyAt)
    (few : call.replyAt = none ∨ call.targets.length ≤ 1) : call.stakes = call.replyAt.toList := by
  obtain ⟨message, targets, count, replyAt, owned, next⟩ := call
  obtain rfl : count = targets.length := unserved
  obtain rfl : message.reply = replyAt := same
  rcases few with nothing | few
  · obtain nothing : message.reply = none := nothing
    simp [stakes, nothing]
  · match targets, few with
    | [], _ => rfl
    | [_], _ => simp [stakes]

namespace Bus

/-- The deliveries that are dropped. -/
def Demand.dropped : Demand → List Delivery
  | drop deliveries => deliveries
  | _ => []

/-- The reply address of a request that is given up. -/
def Demand.givenUp : Demand → List String
  | giveUp address => [address]
  | _ => []

/-- The deliveries that a handler takes over. -/
def Demand.given : Demand → List Delivery
  | ask _ owned _ => owned
  | _ => []

/-- The reply address that is handed out. -/
def opened (bus : Bus) : Demand → List String
  | .ask _ _ _ => [replyAddress bus.next]
  | _ => []

/-- No handler owns a delivery. -/
def Light (bus : Bus) : Prop := ∀ waiting ∈ bus.waiting, waiting.owned = []

variable {bus after : Bus}

/-- Then none is brought along. -/
theorem Light.received (light : bus.Light) (address : String) (receiver : Receiver) :
    (bus.received address receiver).flatMap Prod.snd = [] := by
  cases receiver with
  | handler =>
    cases there : bus.waitingAt address with
    | none => simp [Bus.received, there]
    | some waiting => simp [Bus.received, there, light waiting (List.mem_of_find?_eq_some there)]
  | _ => simp [Bus.received, List.flatMap_map]

/-- A handler that owns nothing leaves the bus light. -/
theorem Light.await (light : bus.Light) (handler : Handler) : (bus.await handler []).2.Light := by
  intro waiting among
  rcases List.mem_append.1 among with before | new
  · exact light waiting before
  · rw [List.mem_singleton.1 new]

/-- Whoever receives a message, the handler that waits at its address waits no more. -/
theorem waiting_reached (bus : Bus) (address : String) (mode : Mode) :
    (bus.reached address mode).waiting
      = bus.waiting.filter fun waiting => waiting.address != address := by
  unfold reached takeWaiting
  cases there : bus.waitingAt address with
  | some waiting => rfl
  | none =>
    have nobody : bus.waiting.filter (fun waiting => waiting.address != address) = bus.waiting := by
      rw [List.filter_eq_self]
      intro waiting among
      simpa using List.find?_eq_none.1 there waiting among
    rw [nobody]
    cases mode with
    | toAll => rfl
    | toOne =>
      simp only [audience]
      split <;> rfl

/-- A message to one goes to somebody if there is anybody. -/
theorem length_received_toOne (bus : Bus) (address : String) :
    (bus.received address (bus.receiver address .toOne)).length =
      if (bus.waitingAt address).isSome ∨ bus.consumersOf address ≠ [] then 1 else 0 := by
  cases waiting : bus.waitingAt address with
  | some waiting => simp [receiver, received, waiting]
  | none =>
    cases consumers : bus.consumersOf address with
    | nil => simp [receiver, received, waiting, consumers]
    | cons first others =>
      have inside : bus.turn % (others.length + 1) < (first :: others).length :=
        Nat.mod_lt _ (Nat.succ_pos _)
      simp [receiver, received, waiting, consumers, List.getElem?_eq_getElem inside]

end Bus

namespace Traffic

variable {traffic after : Traffic}

/-! ## Deliveries and reply addresses -/

/-- All deliveries that there are. -/
def live (traffic : Traffic) : List Delivery :=
  traffic.slots.map Prod.snd ++
    (traffic.running.toList.flatMap Running.owned ++ traffic.calls.flatMap Call.deliveries)

/-- The reply addresses of the requests under way. -/
def underWay (traffic : Traffic) : List String := traffic.calls.flatMap Call.stakes

/-- The reply addresses of requests that may still be answered by whoever has their delivery. -/
def stakes (traffic : Traffic) : List String :=
  repliesOf traffic.live ++ traffic.underWay

/-- Whoever has the delivery of a request has a stake in its reply address. -/
theorem mem_stakes {delivery : Delivery} (among : delivery ∈ traffic.live) {address : String}
    (reply : delivery.message.reply = some address) : address ∈ traffic.stakes :=
  List.mem_append_left _ (List.mem_filterMap.2 ⟨delivery, among, reply⟩)

/-- No handler owns a delivery, none has a number that another one has, and there is one
delivery in a slot at most. -/
structure Tidy (traffic : Traffic) : Prop where
  light : traffic.bus.Light
  slots : (traffic.slots.map Prod.fst).Nodup
  numbers : (traffic.live.map Delivery.number).Nodup
  below : ∀ delivery ∈ traffic.live, delivery.number < traffic.delivered

/-- The next step leaves no delivery to a handler. -/
def LeavesNone (traffic : Traffic) : Prop := traffic.demand.given = []

instance : DecidablePred LeavesNone := fun traffic =>
  inferInstanceAs (Decidable (traffic.demand.given = []))

/-- What a step with such a demand does with deliveries and with the reply addresses of
requests under way. -/
structure Passes (traffic after : Traffic) (demand : Bus.Demand) (arrived : List Delivery) :
    Prop where
  live : (arrived ++ traffic.live).Perm (demand.dropped ++ after.live)
  underWay : (traffic.bus.opened demand ++ traffic.underWay).Perm
    (repliesOf arrived ++ (demand.givenUp ++ after.underWay))
  slots : (after.slots.map Prod.fst).Nodup
  numbered : arrived = [] ∧ after.delivered = traffic.delivered ∨
    ∃ message, arrived = [⟨traffic.delivered, message⟩] ∧
      after.delivered = traffic.delivered + 1

/-! ## Sending and serving -/

/-- A draft is sent: its message is handed to those who receive it. -/
theorem send_prepared (traffic : Traffic) (draft : Draft) (reply : Option String) (mode : Mode)
    (owned : List Delivery) (next : Nat → Program) :
    let targets := traffic.bus.received draft.address (traffic.bus.receiver draft.address mode)
    ∃ message recording journal names, message.address = draft.address ∧ message.reply = reply ∧
      (traffic.prepare draft reply).2.send (traffic.prepare draft reply).1 mode owned next =
        { traffic with
          bus := traffic.bus.reached draft.address mode
          recording := recording, journal := journal, names := names, running := none
          calls := ⟨message, targets, targets.length, reply, owned, next⟩ :: traffic.calls } := by
  obtain ⟨message, prepared, same, resembles⟩ := traffic.prepare_resembles draft reply
  obtain ⟨headers, recording, journal, names, hooked⟩ :=
    applyHooks_eq { traffic with recording := prepared } .outbound message
  refine ⟨{ message with headers := headers }, recording, journal, names, resembles.address,
    resembles.reply, ?_⟩
  simp only [same, send, hooked, targets_eq, resembles.address, resembles.reply]

/-- A message is handed to a handler in a new delivery. -/
theorem serve_eq (traffic : Traffic) (message : Message) (handler : Handler)
    (brought : List Delivery) :
    ∃ delivery : Delivery, delivery.number = traffic.delivered ∧
      delivery.message.reply = message.reply ∧ ∃ recording journal names,
        traffic.serve message handler brought =
          { traffic with
            recording := recording, journal := journal, names := names
            delivered := traffic.delivered + 1
            running := some ⟨delivery :: brought, handler.run delivery⟩ } := by
  obtain ⟨headers, recording, journal, names, hooked⟩ := traffic.applyHooks_eq .inbound message
  let entry := Entry.delivered handler.name { message with headers := headers }
  refine ⟨⟨traffic.delivered, { message with headers := headers }⟩, rfl, rfl, recording,
    entry :: journal, entry.ids.foldl ShortNames.note names, ?_⟩
  rw [serve, hooked]
  rfl

/-- Going on with a bus changes the bus and whether traffic is stuck, nothing else. -/
theorem andThen_eq (traffic : Traffic) (dropped : Option Bus) :
    ∃ bus stuck, traffic.andThen dropped = { traffic with bus := bus, stuck := stuck } := by
  cases dropped <;> exact ⟨_, _, rfl⟩

/-! ## What a program does -/

section Programs

variable {owned : List Delivery} {program : Program}

/-- What lies in slots lies in one of them or in the others. -/
theorem perm_slots (slots : List (String × Delivery)) (slot : String) :
    slots.Perm ((slots.filter fun entry => entry.1 == slot) ++
      slots.filter fun entry => entry.1 != slot) :=
  (List.filter_append_perm (fun entry : String × Delivery => entry.1 == slot) slots).symm

/-- Where each slot has one entry at most, those of a slot are what is found in it. -/
theorem filter_eq_lookup {slots : List (String × Delivery)} (once : (slots.map Prod.fst).Nodup)
    (slot : String) :
    (slots.filter fun entry => entry.1 == slot).map Prod.snd = (slots.lookup slot).toList := by
  induction slots with
  | nil => rfl
  | cons entry rest ih =>
    obtain ⟨name, delivery⟩ := entry
    rw [List.map_cons, List.nodup_cons] at once
    by_cases same : name = slot
    · subst same
      have none : rest.filter (fun entry => entry.1 == name) = [] := by
        rw [List.filter_eq_nil_iff]
        intro entry among here
        exact once.1 (List.mem_map.2 ⟨entry, among, beq_iff_eq.1 here⟩)
      simp [none]
    · have other : (slot == name) = false := by simpa using Ne.symm same
      rw [List.filter_cons_of_neg (by simpa using same), ih once.2, List.lookup_cons, other]

/-- A program that does not send has to do with its own deliveries and those in slots. -/
theorem passes_own (running : traffic.running = some ⟨owned, program⟩) {demand : Bus.Demand}
    (opened : traffic.bus.opened demand = []) (givenUp : demand.givenUp = [])
    {kept : List Delivery} (parts : (traffic.slots.map Prod.snd ++ owned).Perm
      (demand.dropped ++ (after.slots.map Prod.snd ++ kept)))
    (left : after.running.toList.flatMap Running.owned = kept)
    (calls : after.calls = traffic.calls) (slots : (after.slots.map Prod.fst).Nodup)
    (delivered : after.delivered = traffic.delivered) :
    traffic.Passes after demand [] where
  live := by
    rw [live, live, running, calls, left]
    change (_ ++ ((owned ++ []) ++ _)).Perm _
    simp only [List.append_nil, ← List.append_assoc]
    simpa only [List.append_assoc] using parts.append_right _
  underWay := by
    rw [opened, givenUp, underWay, underWay, calls]
    exact .refl _
  slots := slots
  numbered := .inl ⟨rfl, delivered⟩

/-- There is one delivery with a number at most, and the others are left. -/
theorem separate_cases (numbers : (owned.map Delivery.number).Nodup) (number : Nat) :
    ∃ (found : Option Delivery) (kept : List Delivery),
      separate owned number = (found.toList, kept) ∧ owned.Perm (found.toList ++ kept) := by
  rw [separate, List.partition_eq_filter_filter]
  have parts := List.filter_append_perm (fun delivery : Delivery => delivery.number == number) owned
  have few : (owned.filter fun delivery => delivery.number == number).length ≤ 1 := by
    have once := List.nodup_iff_count_le_one.1 numbers number
    rwa [List.count_eq_countP, List.countP_map, List.countP_eq_length_filter] at once
  have rest : owned.filter (not ∘ fun delivery => delivery.number == number)
      = owned.filter fun delivery => !delivery.number == number := rfl
  cases found : owned.filter fun delivery => delivery.number == number with
  | nil => exact ⟨none, _, rest ▸ rfl, found ▸ parts.symm⟩
  | cons delivery others =>
    cases others with
    | nil => exact ⟨some delivery, _, rest ▸ rfl, found ▸ parts.symm⟩
    | cons another others =>
      rw [found] at few
      simp at few

/-- The deliveries of a program have different numbers. -/
theorem Tidy.numbers_owned (tidy : traffic.Tidy)
    (running : traffic.running = some ⟨owned, program⟩) :
    (owned.map Delivery.number).Nodup := by
  have numbers := tidy.numbers
  rw [live, running, List.map_append, List.map_append] at numbers
  simpa using (List.nodup_append.1 (List.nodup_append.1 numbers).2.1).1

/-- Sending leaves the deliveries of the program that waits where they are. -/
theorem passes_send (tidy : traffic.Tidy) (running : traffic.running = some ⟨owned, program⟩)
    {demand : Bus.Demand} (dropped : demand.dropped = []) (givenUp : demand.givenUp = [])
    {reply : Option String} (opened : traffic.bus.opened demand = reply.toList)
    {bus : Bus} (light : bus.Light) (draft : Draft) (mode : Mode)
    (alone : reply = none ∨ mode = .toOne) (next : Nat → Program) :
    let sent := { traffic with bus := bus }.prepare draft reply
    traffic.Passes (sent.2.send sent.1 mode owned next) demand [] := by
  obtain ⟨message, recording, journal, names, -, same, sent⟩ :=
    { traffic with bus := bus }.send_prepared draft reply mode owned next
  simp only [sent]
  refine ⟨?_, ?_, tidy.slots, .inl ⟨rfl, rfl⟩⟩
  · rw [dropped, live, live, running]
    simp [Call.deliveries, light.received]
  · rw [opened, givenUp, underWay, underWay, List.flatMap_cons, Call.stakes_sent rfl same]
    · exact .refl _
    · refine alone.imp_right ?_
      rintro rfl
      rw [bus.length_received_toOne]
      split
      · exact Nat.le_refl 1
      · exact Nat.zero_le 1

/-- A request that leaves no delivery to its handler leaves the program all that it has. -/
theorem passes_request (tidy : traffic.Tidy) {draft : Draft} {name : String}
    {onReply : Delivery → Program} {given : List Nat} {next : Nat → Program}
    (running : traffic.running = some ⟨owned, .request draft name onReply given next⟩)
    (leaves : traffic.LeavesNone) :
    traffic.Passes (traffic.advance owned (.request draft name onReply given next))
      ((Program.request draft name onReply given next).demand traffic.slots owned) [] := by
  have none : (owned.partition fun delivery => given.contains delivery.number).1 = [] := by
    rw [LeavesNone, demand, running] at leaves
    exact leaves
  have all : (owned.partition fun delivery => given.contains delivery.number).2 = owned := by
    rw [List.partition_eq_filter_filter] at none ⊢
    rw [List.filter_eq_self]
    intro delivery among
    simpa using List.filter_eq_nil_iff.1 none delivery among
  simp only [advance, none, all]
  exact passes_send tidy running rfl rfl rfl (tidy.light.await _) draft .toOne (.inr rfl) next

/-- A delivery that is put aside goes from the program to a slot, and what was there is dropped. -/
theorem passes_hold (tidy : traffic.Tidy) {slot : String} {number : Nat} {next : Program}
    (running : traffic.running = some ⟨owned, .hold slot number next⟩) :
    traffic.Passes (traffic.advance owned (.hold slot number next))
      ((Program.hold slot number next).demand traffic.slots owned) [] := by
  obtain ⟨found, kept, parted, parts⟩ := separate_cases (tidy.numbers_owned running) number
  simp only [advance, Program.demand, parted]
  cases found with
  | none =>
    refine passes_own running rfl rfl (parts.append_left _) ?_ rfl tidy.slots rfl
    simp
  | some delivery =>
    simp only [Option.toList_some]
    obtain ⟨bus, stuck, same⟩ := andThen_eq { traffic with
      running := some ⟨kept, next⟩
      slots := (traffic.slots.filter fun entry => entry.1 != slot) ++ [(slot, delivery)] }
        (traffic.bus.dropAll
          ((traffic.slots.filter fun entry => entry.1 == slot).map Prod.snd))
    rw [same]
    refine passes_own running rfl rfl ?_ (List.append_nil kept) rfl ?_ rfl
    · have both := ((perm_slots traffic.slots slot).map Prod.snd).append parts
      simpa [Bus.Demand.dropped] using both
    · rw [List.map_append, List.nodup_append]
      refine ⟨(List.filter_sublist.map _).nodup tidy.slots, List.nodup_singleton _, ?_⟩
      -- No other delivery is left in the slot.
      rintro name other _ new rfl
      obtain ⟨entry, among, rfl⟩ := List.mem_map.1 other
      simp at new
      simp [new] at among

/-- What has a delivery that a program owns or that lies in a slot goes on to have one. -/
theorem passes_advance (tidy : traffic.Tidy) (running : traffic.running = some ⟨owned, program⟩)
    (leaves : traffic.LeavesNone) :
    traffic.Passes (traffic.advance owned program) (program.demand traffic.slots owned) [] := by
  cases program with
  | dispatch draft mode next =>
    exact passes_send tidy running rfl rfl rfl tidy.light draft mode (.inl rfl) next
  | request draft name onReply given next => exact passes_request tidy running leaves
  | finish answer =>
    obtain ⟨bus, stuck, same⟩ := andThen_eq { traffic with
      running := none
      answer := if traffic.calls.isEmpty then answer else traffic.answer }
        (traffic.bus.dropAll owned)
    rw [advance, finish, same]
    refine passes_own running rfl rfl ?_ rfl rfl tidy.slots rfl
    change (_ ++ owned).Perm (owned ++ (_ ++ []))
    rw [List.append_nil]
    exact List.perm_append_comm
  | hold slot number next => exact passes_hold tidy running
  | take slot next =>
    refine passes_own running rfl rfl ?_ (List.append_nil _) rfl ?_ rfl
    · have both := ((perm_slots traffic.slots slot).map Prod.snd).append_right owned
      rw [List.map_append, filter_eq_lookup tidy.slots, List.append_assoc] at both
      exact both.trans (List.perm_append_comm_assoc _ _ _)
    · exact (List.filter_sublist.map _).nodup tidy.slots
  | drop number next =>
    obtain ⟨found, kept, parted, parts⟩ := separate_cases (tidy.numbers_owned running) number
    simp only [advance, Program.demand, parted]
    obtain ⟨bus, stuck, same⟩ := andThen_eq { traffic with running := some ⟨kept, next⟩ }
      (traffic.bus.dropAll found.toList)
    rw [same]
    refine passes_own running rfl rfl ?_ (List.append_nil _) rfl tidy.slots rfl
    exact (parts.append_left _).trans (List.perm_append_comm_assoc _ _ _)
  | _ => exact passes_own running rfl rfl (.refl _) (by simp [advance]) rfl tidy.slots rfl

end Programs

/-! ## What a dispatch does -/

/-- A new delivery takes the place of what was to be handed over. -/
theorem passes_serve {call : Call} {outer : List Call} (tidy : traffic.Tidy)
    (running : traffic.running = none) (calls : traffic.calls = call :: outer) {handler : Handler}
    {brought : List Delivery} {later : List (Handler × List Delivery)}
    (targets : call.targets = (handler, brought) :: later) :
    ∃ arrived, traffic.Passes
      ({ traffic with calls := { call with targets := later } :: outer }.serve call.message handler
        brought) .nothing arrived := by
  obtain ⟨delivery, number, reply, recording, journal, names, served⟩ := serve_eq
    { traffic with calls := { call with targets := later } :: outer } call.message handler brought
  refine ⟨[delivery], ?_⟩
  rw [served]
  refine ⟨?_, ?_, tidy.slots, .inr ⟨delivery.message, by rw [← number], rfl⟩⟩
  · have handed := List.perm_append_comm_assoc call.owned brought
      (later.flatMap Prod.snd ++ outer.flatMap Call.deliveries)
    simp only [live, running, calls, Call.deliveries, targets, Bus.Demand.dropped,
      Option.toList_none, Option.toList_some, List.flatMap_nil, List.flatMap_cons, List.nil_append,
      List.append_nil, List.append_assoc, List.cons_append]
    exact ((handed.append_left _).cons delivery).trans List.perm_middle.symm
  · have one : repliesOf [delivery] = call.message.reply.toList := by
      rw [repliesOf, List.filterMap_cons, reply]
      cases call.message.reply <;> rfl
    simp only [underWay, calls, Call.stakes, targets, one, Bus.opened, Bus.Demand.givenUp,
      List.flatMap_cons, List.nil_append, List.append_assoc]
    exact .refl _

/-- The end of a dispatch changes the bus and whether traffic is stuck, nothing else. -/
theorem conclude_eq (traffic : Traffic) (call : Call) :
    ∃ bus stuck, traffic.conclude call =
      { traffic with
        bus := bus, stuck := stuck
        running := some ⟨call.owned, call.next call.count⟩ } := by
  unfold conclude
  split
  next address _ =>
    split
    · exact andThen_eq _ _
    · exact ⟨_, _, rfl⟩
  next => exact ⟨_, _, rfl⟩

/-- A request that nobody received is given up, and else nothing is wanted at the end. -/
theorem demand_ended (bus : Bus) {call : Call} (targets : call.targets = []) :
    call.demand.givenUp = call.stakes ∧ call.demand.dropped = [] ∧
      bus.opened call.demand = [] := by
  obtain ⟨message, those, count, replyAt, owned, next⟩ := call
  obtain rfl : those = [] := targets
  cases replyAt with
  | none => exact ⟨by simp [Call.demand, Call.stakes, Bus.Demand.givenUp], rfl, rfl⟩
  | some address =>
    simp only [Call.demand, Call.stakes]
    split <;> exact ⟨rfl, rfl, rfl⟩

/-- At its end a dispatch gives back what it had, and gives the request up that nobody received. -/
theorem passes_conclude {call : Call} {outer : List Call} (tidy : traffic.Tidy)
    (running : traffic.running = none) (calls : traffic.calls = call :: outer)
    (targets : call.targets = []) :
    traffic.Passes ({ traffic with calls := outer }.conclude call) call.demand [] := by
  obtain ⟨bus, stuck, ended⟩ := conclude_eq { traffic with calls := outer } call
  obtain ⟨givenUp, dropped, opened⟩ := demand_ended traffic.bus targets
  rw [ended]
  refine ⟨?_, ?_, tidy.slots, .inl ⟨rfl, rfl⟩⟩
  · simp [live, dropped, running, calls, Call.deliveries, targets]
  · rw [opened, givenUp, underWay, calls]
    exact .refl _

/-- A step hands over one new delivery at most and drops what it is said to drop, and of the
requests under way it gives up those that it is said to give up. -/
theorem passes_step (tidy : traffic.Tidy) (leaves : traffic.LeavesNone)
    (stepped : traffic.step = some after) :
    ∃ arrived, traffic.Passes after traffic.demand arrived := by
  rcases step_cases stepped with ⟨running, there, rfl⟩ | ⟨call, outer, idle, calls, goesOn⟩
  · rw [demand, there]
    exact ⟨[], passes_advance tidy there leaves⟩
  · rw [demand, idle, calls]
    rcases goesOn with ⟨served, rfl⟩ | ⟨handler, brought, later, unserved, rfl⟩
    · exact ⟨[], passes_conclude tidy idle calls served⟩
    · have nothing : call.demand = .nothing := by simp only [Call.demand, unserved]
      exact nothing ▸ passes_serve tidy idle calls unserved

end Traffic

end CausalTrace
