import CausalTrace.Proofs.Bus.Registers
import CausalTrace.Proofs.Bus.Replies

/-!
# Whom a dispatch reaches

A dispatch finds out at its beginning who receives its message.  Those who run within it may
register and retire consumers, also at its own address: it goes on with whom it has found, hands
each of them a copy of the message in turn, and returns how many they were.

A chronicle tells what happens at a bus from some moment on, together with the ids that were drawn
and what was handed over.  Dispatches lie within each other, so it is told of each handing how deep
it was; the handings of one dispatch are those at its own depth until it returns.  Ids are natural
numbers, and the counter that they are drawn from does not run out.
-/

namespace CausalTrace

/-- A message that is handed to a handler. -/
structure Handing where
  /-- How many dispatches are under way around the one that it is for. -/
  depth : Nat
  handler : Handler
  /-- The message as the dispatch has it. -/
  message : Message
  /-- What the handler is given: a copy that the inbound hooks have seen. -/
  delivery : Delivery

/-- The ids that a pair of hooks draws. -/
def HookPair.drawn (pair : HookPair) (bus : Bus) : List Nat :=
  match pair.ids with
  | some _ => []
  | none => (pair.place bus).1.ids.toList.flatMap fun ids => [ids.1, ids.2]

namespace Traffic

/-- What a dispatch hands to a handler while others are still to be served. -/
def hand (traffic : Traffic) (call : Call) (outer : List Call) (handler : Handler)
    (later : List (Handler × List Delivery)) : Handing :=
  let (message, hooked) := { traffic with
    calls := { call with targets := later } :: outer }.applyHooks .inbound call.message
  ⟨outer.length, handler, call.message, ⟨hooked.delivered, message⟩⟩

/-- What the next step hands over. -/
def handing? (traffic : Traffic) : Option Handing :=
  match traffic.running, traffic.calls with
  | none, call :: outer =>
    match call.targets with
    | [] => none
    | (handler, _) :: later => some (traffic.hand call outer handler later)
  | _, _ => none

/-- What happens at a bus from some moment on, in states that are fit for it, with the ids that were
drawn and what was handed over, in order. -/
inductive Chronicle (fit : Traffic → Prop) (start : Traffic) :
    List Nat → List Handing → Traffic → Prop where
  | here : Chronicle fit start [] [] start
  | step {ids handings traffic after} (prior : Chronicle fit start ids handings traffic)
      (isFit : fit traffic) (stepped : traffic.step = some after) :
      Chronicle fit start (ids ++ traffic.bus.drawn traffic.demand)
        (handings ++ traffic.handing?.toList) after
  /-- An outside caller begins a program while nothing is under way. -/
  | begins {ids handings traffic} (prior : Chronicle fit start ids handings traffic)
      (idle : traffic.isIdle = true) (program : Program) :
      Chronicle fit start ids handings (traffic.start program)
  /-- Recorders work. -/
  | elapses {ids handings traffic after} (prior : Chronicle fit start ids handings traffic)
      (elapsed : Elapses traffic after) : Chronicle fit start ids handings after
  /-- Pipelines come and go. -/
  | place {ids handings traffic} (prior : Chronicle fit start ids handings traffic)
      (pair : HookPair) :
      Chronicle fit start (ids ++ pair.drawn traffic.bus) handings (traffic.placeHooks pair).2
  | remove {ids handings traffic} (prior : Chronicle fit start ids handings traffic)
      (pair : HookPair) : Chronicle fit start ids handings (traffic.removeHooks pair).2

variable {fit : Traffic → Prop} {start traffic after : Traffic} {ids : List Nat}
  {handings : List Handing}

/-- A chronicle goes on with another one. -/
theorem Chronicle.trans {middle : Traffic} {further : List Nat} {more : List Handing}
    (first : Chronicle fit start ids handings middle)
    (second : Chronicle fit middle further more traffic) :
    Chronicle fit start (ids ++ further) (handings ++ more) traffic := by
  induction second with
  | here => simpa using first
  | step _ isFit stepped ih =>
    rw [← List.append_assoc, ← List.append_assoc]
    exact .step ih isFit stepped
  | begins _ idle program ih => exact .begins ih idle program
  | elapses _ elapsed ih => exact .elapses ih elapsed
  | place _ pair ih =>
    rw [← List.append_assoc]
    exact .place ih pair
  | remove _ pair ih => exact .remove ih pair

/-- A chronicle is a history. -/
theorem Chronicle.history (chronicle : Chronicle fit start ids handings traffic)
    {fit' : Traffic → Prop} (fits : ∀ state, fit state → fit' state) :
    ∃ postings, History fit' start postings traffic := by
  induction chronicle with
  | here => exact ⟨_, .here⟩
  | step _ isFit stepped ih =>
    obtain ⟨_, history⟩ := ih
    exact ⟨_, .step history (fits _ isFit) stepped⟩
  | begins _ idle program ih =>
    obtain ⟨_, history⟩ := ih
    exact ⟨_, .begins history idle program⟩
  | elapses _ elapsed ih =>
    obtain ⟨_, history⟩ := ih
    exact ⟨_, .attends history (.elapses elapsed)⟩
  | place _ pair ih =>
    obtain ⟨_, history⟩ := ih
    exact ⟨_, .attends history (.place pair)⟩
  | remove _ pair ih =>
    obtain ⟨_, history⟩ := ih
    exact ⟨_, .attends history (.remove pair)⟩

/-! ## Ids -/

/-- Everybody has an id of their own after each step. -/
theorem enrolled_step (enrolled : traffic.bus.Enrolled ids) (stepped : traffic.step = some after) :
    after.bus.Enrolled (ids ++ traffic.bus.drawn traffic.demand) := by
  rw [(step_meets stepped).bus]
  cases met : traffic.bus.meet traffic.demand with
  | some bus => exact enrolled.meet met
  | none =>
    -- What cannot be met lets handlers go, for which no id is drawn.
    have none : traffic.bus.drawn traffic.demand = [] := by
      obtain ⟨address, among, -⟩ := Bus.meet_eq_none_iff.1 met
      cases demand : traffic.demand with
      | giveUp | drop => rfl
      | _ =>
        rw [demand] at among
        cases among
    rw [none, List.append_nil]
    exact enrolled

/-- A pair of hooks draws its ids and is enrolled under them. -/
theorem enrolled_placeHooks (enrolled : traffic.bus.Enrolled ids) (pair : HookPair) :
    (traffic.placeHooks pair).2.bus.Enrolled (ids ++ pair.drawn traffic.bus) := by
  obtain ⟨recorder, placed⟩ := pair
  cases placed with
  | some both =>
    rw [HookPair.drawn, List.append_nil]
    exact enrolled
  | none =>
    have both := (enrolled.place .outbound (.capture recorder .sent)).place .inbound
      (.capture recorder .received)
    rw [List.append_assoc] at both
    exact both

/-- Nobody comes to be out of place when a pair of hooks is removed. -/
theorem enrolled_removeHooks (enrolled : traffic.bus.Enrolled ids) (pair : HookPair) :
    (traffic.removeHooks pair).2.bus.Enrolled ids := by
  obtain ⟨recorder, placed⟩ := pair
  cases placed with
  | none => exact enrolled
  | some both => exact (enrolled.remove both.1).remove both.2

/-- At any moment of a chronicle the ids in use are among those that were drawn, each once. -/
theorem Chronicle.enrolled {recording : Recording}
    (chronicle : Chronicle fit (.new recording) ids handings traffic) :
    traffic.bus.Enrolled ids := by
  induction chronicle with
  | here => exact .empty
  | step _ _ stepped ih => exact enrolled_step ih stepped
  | begins _ _ _ ih => exact ih
  | elapses _ elapsed ih =>
    cases elapsed
    exact ih
  | place _ pair ih => exact enrolled_placeHooks ih pair
  | remove _ pair ih => exact enrolled_removeHooks ih pair

/-! ## Handings -/

/-- A program hands nothing over itself.  It begins one dispatch at most, above the others. -/
theorem advance_begins (traffic : Traffic) (owned : List Delivery) (program : Program) :
    (traffic.advance owned program).delivered = traffic.delivered ∧
      ((traffic.advance owned program).calls = traffic.calls ∨
        ∃ call, (traffic.advance owned program).calls = call :: traffic.calls) := by
  cases program with
  | dispatch draft mode next =>
    obtain ⟨_, _, _, _, -, -, sent⟩ := traffic.send_prepared draft none mode owned next
    rw [show traffic.advance owned (.dispatch draft mode next) = _ from sent]
    exact ⟨rfl, .inr ⟨_, rfl⟩⟩
  | request draft name onReply given next =>
    let parted := owned.partition fun delivery => given.contains delivery.number
    let awaited := traffic.bus.await ⟨name, onReply⟩ parted.1
    obtain ⟨_, _, _, _, -, -, sent⟩ :=
      { traffic with bus := awaited.2 }.send_prepared draft (some awaited.1) .toOne parted.2 next
    rw [show traffic.advance owned (.request draft name onReply given next) = _ from sent]
    exact ⟨rfl, .inr ⟨_, rfl⟩⟩
  | finish answer =>
    obtain ⟨bus, stuck, same⟩ := andThen_eq _ (traffic.bus.dropAll owned)
    rw [advance, finish, same]
    exact ⟨rfl, .inl rfl⟩
  | hold slot number next =>
    simp only [advance]
    split
    · exact ⟨rfl, .inl rfl⟩
    · obtain ⟨bus, stuck, same⟩ := andThen_eq _ _
      rw [same]
      exact ⟨rfl, .inl rfl⟩
  | drop number next =>
    simp only [advance]
    obtain ⟨bus, stuck, same⟩ := andThen_eq _ _
    rw [same]
    exact ⟨rfl, .inl rfl⟩
  | _ => exact ⟨rfl, .inl rfl⟩

/-- What is handed over, and how the step that does it goes on. -/
structure HandsOver (traffic : Traffic) (handing : Handing) (brought : List Delivery)
    (after : Traffic) : Prop where
  running : after.running
    = some ⟨handing.delivery :: brought, handing.handler.run handing.delivery⟩
  number : handing.delivery.number = traffic.delivered
  next : after.delivered = traffic.delivered + 1
  /-- The delivery is the message as the inbound hooks of the bus leave it. -/
  hooked : ∃ seen : Traffic, seen.bus = traffic.bus ∧
    handing.delivery.message = (seen.applyHooks .inbound handing.message).1

/-- Somebody is served in the innermost dispatch. -/
theorem handsOver_serve (traffic : Traffic) (call : Call) (outer : List Call) (handler : Handler)
    (brought : List Delivery) (later : List (Handler × List Delivery)) :
    let serving := { traffic with calls := { call with targets := later } :: outer }
    traffic.HandsOver (traffic.hand call outer handler later) brought
        (serving.serve call.message handler brought) ∧
      (serving.serve call.message handler brought).calls = serving.calls := by
  intro serving
  obtain ⟨headers, recording, journal, names, hooked⟩ :=
    serving.applyHooks_eq .inbound call.message
  have handed : traffic.hand call outer handler later
      = ⟨outer.length, handler, call.message,
        ⟨traffic.delivered, { call.message with headers := headers }⟩⟩ := by
    rw [hand, hooked]
  rw [handed, serve, hooked]
  exact ⟨⟨rfl, rfl, rfl, serving, rfl, by rw [hooked]⟩, rfl⟩

/-- How a step changes the dispatches under way, and what it hands over. -/
theorem step_hands (stepped : traffic.step = some after) :
    (traffic.handing? = none ∧ after.delivered = traffic.delivered ∧
        (after.calls = traffic.calls ∨ ∃ call, after.calls = call :: traffic.calls)) ∨
      ∃ call outer, traffic.calls = call :: outer ∧
        ((call.targets = [] ∧ traffic.handing? = none ∧ after.delivered = traffic.delivered ∧
            after.calls = outer ∧ after.running = some ⟨call.owned, call.next call.count⟩) ∨
          ∃ handler brought later, call.targets = (handler, brought) :: later ∧
            traffic.handing? = some (traffic.hand call outer handler later) ∧
            traffic.HandsOver (traffic.hand call outer handler later) brought after ∧
            after.calls = { call with targets := later } :: outer) := by
  rcases step_cases stepped with ⟨running, there, rfl⟩ | ⟨call, outer, idle, calls, goesOn⟩
  · obtain ⟨delivered, begun⟩ := traffic.advance_begins running.owned running.program
    refine .inl ⟨?_, delivered, begun⟩
    simp only [handing?, there]
  · refine .inr ⟨call, outer, calls, ?_⟩
    rcases goesOn with ⟨served, rfl⟩ | ⟨handler, brought, later, unserved, rfl⟩
    · obtain ⟨bus, stuck, ended⟩ := conclude_eq { traffic with calls := outer } call
      rw [ended]
      refine .inl ⟨served, ?_, rfl, rfl, rfl⟩
      simp only [handing?, idle, calls, served]
    · obtain ⟨hands, still⟩ := traffic.handsOver_serve call outer handler brought later
      refine .inr ⟨handler, brought, later, unserved, ?_, hands, still⟩
      simp only [handing?, idle, calls, unserved]

/-- Each handing has a delivery of its own. -/
theorem Chronicle.copies (chronicle : Chronicle fit start ids handings traffic) :
    (handings.map (·.delivery.number)).Nodup ∧
      ∀ handing ∈ handings, handing.delivery.number < traffic.delivered := by
  induction chronicle with
  | here => exact ⟨.nil, nofun⟩
  | @step ids handings traffic after _ _ stepped ih =>
    obtain ⟨single, below⟩ := ih
    -- Only a handing uses up a number, and it uses the next one.
    rcases step_hands stepped with ⟨none, same, -⟩ |
      ⟨call, outer, -, ⟨-, none, same, -⟩ | ⟨handler, brought, later, -, handed, hands, -⟩⟩
    · rw [none, Option.toList_none, List.append_nil, same]
      exact ⟨single, below⟩
    · rw [none, Option.toList_none, List.append_nil, same]
      exact ⟨single, below⟩
    · rw [handed, Option.toList_some, List.map_append, hands.next]
      constructor
      · refine List.nodup_append'.2 ⟨single, List.nodup_singleton _, ?_⟩
        simp only [List.map_singleton, List.disjoint_singleton, List.mem_map, not_exists, not_and]
        intro handing among
        rw [hands.number]
        exact Nat.ne_of_lt (below handing among)
      · intro handing among
        rcases List.mem_append.1 among with before | new
        · exact Nat.lt_succ_of_lt (below handing before)
        · rw [List.mem_singleton.1 new, hands.number]
          exact Nat.lt_succ_self _
  | begins _ _ _ ih => exact ih
  | elapses _ elapsed ih =>
    cases elapsed
    exact ih
  | place _ _ ih => exact ih
  | remove _ _ ih => exact ih

/-! ## What a dispatch returns -/

/-- Who was handed which message under so many dispatches. -/
def handedUnder (depth : Nat) (handings : List Handing) : List (Handler × Message) :=
  (handings.filter fun handing => handing.depth == depth).map fun handing =>
    (handing.handler, handing.message)

/-- What was handed over under a dispatch is told in the order in which it was handed over. -/
theorem handedUnder_append (depth : Nat) (before behind : List Handing) :
    handedUnder depth (before ++ behind)
      = handedUnder depth before ++ handedUnder depth behind := by
  rw [handedUnder, List.filter_append, List.map_append]
  rfl

/-- A dispatch has handed its message to all of these, in order and to each once, and a
program has gone on below it. -/
def Returned (fit : Traffic → Prop) (traffic : Traffic) (message : Message)
    (handlers : List Handler) (outer : List Call) (running : Running) (handings : List Handing)
    (later : Traffic) : Prop :=
  ∃ earlier first middle since rest, Chronicle fit traffic earlier first middle ∧
    handedUnder outer.length first = handlers.map (·, message) ∧ middle.calls = outer ∧
    middle.running = some running ∧ Chronicle fit middle since rest later ∧
    handings = first ++ rest

/-- What has returned stays returned. -/
theorem Returned.trans {later last : Traffic} {message : Message} {handlers : List Handler}
    {outer : List Call} {running : Running} {more : List Handing}
    (returned : Returned fit traffic message handlers outer running handings later)
    (since : Chronicle fit later ids more last) :
    Returned fit traffic message handlers outer running (handings ++ more) last := by
  obtain ⟨_, first, middle, _, rest, before, handed, ended, goes, prior, rfl⟩ := returned
  exact ⟨_, first, middle, _, rest ++ more, before, handed, ended, goes, prior.trans since,
    List.append_assoc _ _ _⟩

/-- However it goes on from here: a dispatch hands its message to the first of these, one after the
other, or it has handed it to all of them and has returned.  As long as it has not, there is a next
step unless the bus has locked itself. -/
def Delivers (traffic : Traffic) (message : Message) (handlers : List Handler) (outer : List Call)
    (running : Running) : Prop :=
  ∀ fit ids handings later, Chronicle fit traffic ids handings later →
    (∃ served unserved, handlers = served ++ unserved ∧
        handedUnder outer.length handings = served.map (·, message) ∧
        (∃ call inner, later.calls = call :: inner ++ outer) ∧
        (later.stuck = false → ∃ next, later.step = some next)) ∨
      Returned fit traffic message handlers outer running handings later

/-- What runs does the next thing that it asks for. -/
theorem step_of_running (free : traffic.stuck = false) {running : Running}
    (runs : traffic.running = some running) :
    traffic.step = some (traffic.advance running.owned running.program) := by
  simp [step, free, runs]

/-- While a dispatch is under way there is a next step. -/
theorem exists_step_of_calls (free : traffic.stuck = false) (underWay : traffic.calls ≠ []) :
    ∃ next, traffic.step = some next := by
  cases runs : traffic.running with
  | some running => exact ⟨_, step_of_running free runs⟩
  | none =>
    cases calls : traffic.calls with
    | nil => exact absurd calls underWay
    | cons call outer =>
      unfold step
      rw [if_neg (by simp [free]), runs]
      simp only [continue?, calls]
      split <;> exact ⟨_, rfl⟩

/-- A dispatch is under way, above some and maybe below others.  Those who have still to be served
are the last of those whom it was to serve at first, and it has handed its message to the others. -/
def GoesAround (traffic : Traffic) (call : Call) (outer : List Call) (handings : List Handing) :
    Prop :=
  ∃ inner served targets, traffic.calls = inner ++ { call with targets := targets } :: outer ∧
    call.targets.map Prod.fst = served ++ targets.map Prod.fst ∧
    handedUnder outer.length handings = served.map (·, call.message)

/-- A step goes on with a dispatch that is under way, or ends it when all are served. -/
theorem GoesAround.step {call : Call} {outer : List Call}
    (around : traffic.GoesAround call outer handings) (stepped : traffic.step = some after) :
    after.GoesAround call outer (handings ++ traffic.handing?.toList) ∨
      after.calls = outer ∧ after.running = some ⟨call.owned, call.next call.count⟩ ∧
        handedUnder outer.length (handings ++ traffic.handing?.toList)
          = (call.targets.map Prod.fst).map (·, call.message) := by
  obtain ⟨inner, served, targets, same, split, handed⟩ := around
  have silent (none : traffic.handing? = none) :
      handedUnder outer.length (handings ++ traffic.handing?.toList)
        = served.map (·, call.message) := by
    rw [none, Option.toList_none, List.append_nil, handed]
  rcases step_hands stepped with ⟨none, -, still | ⟨new, more⟩⟩ | ⟨head, tail, top, goesOn⟩
  · exact .inl ⟨inner, served, targets, still.trans same, split, silent none⟩
  · exact .inl ⟨new :: inner, served, targets, by rw [more, same, List.cons_append], split,
      silent none⟩
  · rw [same] at top
    cases inner with
    | nil =>
      obtain ⟨rfl, rfl⟩ := List.cons.inj top
      rcases goesOn with ⟨ended, none, -, left, goes⟩ |
        ⟨handler, brought, others, unserved, hands, -, left⟩
      · obtain rfl : targets = [] := ended
        refine .inr ⟨left, goes, ?_⟩
        rw [silent none, split, List.map_nil, List.append_nil]
      · obtain rfl : targets = (handler, brought) :: others := unserved
        refine .inl ⟨[], served ++ [handler], others, left, by simp [split], ?_⟩
        rw [hands, Option.toList_some, handedUnder_append, handed, List.map_append]
        simp [handedUnder, hand]
    | cons innermost inner =>
      obtain ⟨rfl, rfl⟩ := List.cons.inj top
      rcases goesOn with ⟨-, none, -, left, -⟩ | ⟨handler, brought, others, -, hands, -, left⟩
      · exact .inl ⟨inner, served, targets, left, split, silent none⟩
      · refine .inl
          ⟨{ innermost with targets := others } :: inner, served, targets, left, split, ?_⟩
        rw [hands, Option.toList_some, handedUnder_append, handed]
        -- An inner dispatch is deeper than this one.
        simp [handedUnder, hand]
        omega

/-- However it goes on, a dispatch is under way until it has returned. -/
theorem goesAround_or_returned {call : Call} {outer : List Call}
    (calls : traffic.calls = call :: outer) {later : Traffic}
    (chronicle : Chronicle fit traffic ids handings later) :
    later.GoesAround call outer handings ∨
      Returned fit traffic call.message (call.targets.map Prod.fst) outer
        ⟨call.owned, call.next call.count⟩ handings later := by
  induction chronicle with
  | here => exact .inl ⟨[], [], call.targets, calls, rfl, rfl⟩
  | @step ids handings before after prior isFit stepped ih =>
    rcases ih with around | returned
    · refine (around.step stepped).imp_right ?_
      rintro ⟨left, goes, handed⟩
      exact ⟨_, _, after, [], [], .step prior isFit stepped, handed, left, goes, .here,
        (List.append_nil _).symm⟩
    · have on := returned.trans (.step .here isFit stepped)
      rw [List.nil_append] at on
      exact .inr on
  | begins prior idle program ih =>
    rcases ih with ⟨inner, served, targets, same, -⟩ | returned
    · rw [isIdle, Bool.and_eq_true, List.isEmpty_iff, same] at idle
      simp at idle
    · exact .inr (by simpa using returned.trans (.begins .here idle program))
  | elapses prior elapsed ih =>
    refine ih.imp ?_ fun returned => by simpa using returned.trans (.elapses .here elapsed)
    cases elapsed
    exact id
  | place prior pair ih =>
    exact ih.imp_right fun returned => by simpa using returned.trans (.place .here pair)
  | remove prior pair ih =>
    exact ih.imp_right fun returned => by simpa using returned.trans (.remove .here pair)

/-- A dispatch hands its message to those who have still to be served, and returns how many
there were at first. -/
theorem delivers_call {call : Call} {outer : List Call} (calls : traffic.calls = call :: outer) :
    traffic.Delivers call.message (call.targets.map Prod.fst) outer
      ⟨call.owned, call.next call.count⟩ := by
  intro fit ids handings later chronicle
  refine (goesAround_or_returned calls chronicle).imp_left ?_
  rintro ⟨inner, served, targets, same, split, handed⟩
  refine ⟨served, _, split, handed, ?_, fun free => exists_step_of_calls free (by simp [same])⟩
  cases inner with
  | nil => exact ⟨_, [], same⟩
  | cons first inner =>
    exact ⟨first, inner ++ [{ call with targets := targets }], by simpa using same⟩

/-- The message of a draft as the outbound hooks leave it. -/
def outgoing (traffic : Traffic) (draft : Draft) : Message :=
  let (message, traffic) := traffic.prepare draft none
  (traffic.applyHooks .outbound message).1

/-- A program that sends goes on when all who receive the message at that moment have been handed
it, and learns how many they are. -/
theorem delivers_dispatch (free : traffic.stuck = false) {owned : List Delivery} {draft : Draft}
    {mode : Mode} {next : Nat → Program}
    (running : traffic.running = some ⟨owned, .dispatch draft mode next⟩) :
    let receivers := traffic.bus.received draft.address (traffic.bus.receiver draft.address mode)
    ∃ after, traffic.step = some after ∧ after.Delivers (traffic.outgoing draft)
      (receivers.map Prod.fst) traffic.calls ⟨owned, next receivers.length⟩ := by
  intro receivers
  obtain ⟨message, _, _, _, -, -, sent⟩ := traffic.send_prepared draft none mode owned next
  refine ⟨traffic.advance owned (.dispatch draft mode next), step_of_running free running, ?_⟩
  have calls : (traffic.advance owned (.dispatch draft mode next)).calls
      = ⟨message, receivers, receivers.length, none, owned, next⟩ :: traffic.calls :=
    congrArg Traffic.calls sent
  have hooked : message = traffic.outgoing draft :=
    congrArg Call.message (List.cons.inj calls).1.symm
  rw [← hooked]
  exact delivers_call calls

end Traffic

namespace Bus

variable {bus : Bus} {address : String}

/-- A message to all goes to the consumers that there are at that moment. -/
theorem received_toAll (nobody : bus.waitingAt address = none) :
    bus.received address (bus.receiver address .toAll) =
      (bus.consumersOf address).map fun consumer => (consumer.handler, []) := by
  cases consumers : bus.consumersOf address <;> simp [receiver, received, nobody, consumers]

end Bus

namespace Traffic

/-! ## What holds of the register -/

/-- What holds of the register and of dispatches at any moment of a chronicle. -/
structure RegisterExact (ids : List Nat) (handings : List Handing) (traffic : Traffic) :
    Prop where
  /-- An address that is known has consumers, and the turn is that of one of them. -/
  staffed : ∀ address those, traffic.bus.consumers.lookup address = some those →
    0 < those.length ∧ traffic.bus.turn % those.length < those.length
  /-- No id was drawn twice. -/
  distinct : ids.Nodup
  /-- The ids of consumers and hooks and the numbers of reply addresses were drawn, and nobody has
  that of somebody else. -/
  own : ∃ numbers, traffic.bus.awaiting = numbers.map Bus.replyAddress ∧
    (traffic.bus.enlisted ++ numbers).Nodup ∧ ∀ id ∈ traffic.bus.enlisted ++ numbers, id ∈ ids
  /-- A consumer is registered behind the others of its address, under a new id. -/
  enlists : traffic.stuck = false → ∀ owned address name handler next,
    traffic.running = some ⟨owned, .consume address name handler next⟩ →
      ∃ id after, traffic.step = some after ∧ after.running = some ⟨owned, next id⟩ ∧ id ∉ ids ∧
        ∀ other, after.bus.consumersOf other =
          if other = address then traffic.bus.consumersOf address ++ [⟨id, ⟨name, handler⟩⟩]
          else traffic.bus.consumersOf other
  /-- Retiring an id returns whether a consumer has it, and only that one goes. -/
  retires : traffic.stuck = false → ∀ owned id next,
    traffic.running = some ⟨owned, .retire id next⟩ →
      ∃ found after, traffic.step = some after ∧ after.running = some ⟨owned, next found⟩ ∧
        traffic.bus.Retires id found after.bus
  /-- A message to all is handed once to each consumer of its address, in the order of their
  registration, and the dispatch returns how many they are. -/
  publishes : traffic.stuck = false → ∀ owned draft next,
    traffic.running = some ⟨owned, .dispatch draft .toAll next⟩ →
      traffic.bus.waitingAt draft.address = none →
        ∃ after, traffic.step = some after ∧
          after.Delivers (traffic.outgoing draft)
            ((traffic.bus.consumersOf draft.address).map Consumer.handler) traffic.calls
            ⟨owned, next (traffic.bus.consumersOf draft.address).length⟩
  /-- A message to one is handed to its receiver, and the dispatch returns whether there is one. -/
  sends : traffic.stuck = false → ∀ owned draft next,
    traffic.running = some ⟨owned, .dispatch draft .toOne next⟩ →
      ∃ after, traffic.step = some after ∧
        after.Delivers (traffic.outgoing draft)
          ((traffic.bus.received draft.address
            (traffic.bus.receiver draft.address .toOne)).map Prod.fst) traffic.calls
          ⟨owned, next (if (traffic.bus.waitingAt draft.address).isSome ∨
            traffic.bus.consumersOf draft.address ≠ [] then 1 else 0)⟩
  /-- Whoever is handed a message runs with a new copy of it. -/
  hands : traffic.stuck = false → ∀ handing, traffic.handing? = some handing →
    ∃ brought after, traffic.step = some after ∧ traffic.HandsOver handing brought after
  /-- No two handings share a copy. -/
  copies : (handings.map (·.delivery.number)).Nodup

/-- Whatever happens at a bus, its register is exact, and so are its dispatches.  The bus does not
lock itself as long as no handler takes a delivery over. -/
theorem Chronicle.registerExact {recording : Recording}
    (chronicle : Chronicle fit (.new recording) ids handings traffic) :
    RegisterExact ids handings traffic ∧
      ((∀ state, fit state → state.LeavesNone) → traffic.stuck = false) := by
  have enrolled := chronicle.enrolled
  refine ⟨{
    staffed := fun address those found => ?_
    distinct := enrolled.distinct
    own := enrolled.nodup
    enlists := fun free owned address name handler next running => ?_
    retires := fun free owned id next running => ?_
    publishes := fun free owned draft next running nobody => ?_
    sends := fun free owned draft next running => ?_
    hands := fun free handing handed => ?_
    copies := chronicle.copies.1 }, fun leaves => ?_⟩
  · have staff : 0 < those.length :=
      List.length_pos_of_ne_nil (enrolled.staffed _ (Bus.mem_of_lookup found))
    exact ⟨staff, Nat.mod_lt _ staff⟩
  · refine ⟨traffic.bus.next, traffic.advance owned (.consume address name handler next),
      step_of_running free running, rfl, enrolled.next_notMem, fun other => ?_⟩
    exact traffic.bus.consumersOf_consume address other ⟨name, handler⟩
  · exact ⟨_, traffic.advance owned (.retire id next), step_of_running free running, rfl,
      enrolled.retires id⟩
  · obtain ⟨after, stepped, delivers⟩ := delivers_dispatch free running
    rw [Bus.received_toAll nobody, List.map_map, List.length_map] at delivers
    exact ⟨after, stepped, delivers⟩
  · obtain ⟨after, stepped, delivers⟩ := delivers_dispatch free running
    rw [Bus.length_received_toOne] at delivers
    exact ⟨after, stepped, delivers⟩
  · -- Something is handed over only within a dispatch.
    have underWay : traffic.calls ≠ [] := by
      intro none
      simp only [handing?, none] at handed
      split at handed <;> simp_all
    obtain ⟨after, stepped⟩ := exists_step_of_calls free underWay
    rcases step_hands stepped with ⟨none, -⟩ |
      ⟨call, outer, -, ⟨-, none, -⟩ | ⟨handler, brought, later, -, same, hands, -⟩⟩
    · rw [none] at handed
      cases handed
    · rw [none] at handed
      cases handed
    · rw [same] at handed
      cases handed
      exact ⟨brought, after, stepped, hands⟩
  · obtain ⟨postings, history⟩ := chronicle.history leaves
    exact history.inOrder.free

/-- The first of two consumers retires the second one and registers a third, while a message
to all goes around. -/
def reshuffling : Program :=
  .consume "all" "first" (fun _ => .retire 2 fun found =>
    .consume "all" "third" (fun _ => .finish .done) fun _ => .finish (.flag found)) fun _ =>
  .consume "all" "second" (fun _ => .finish .done) fun _ =>
  .dispatch ⟨"all", .text "", none⟩ .toAll fun count => .finish (.count count)

/-- The moment before the message is sent. -/
def registered : Traffic := ((Traffic.new (.new default 0)).start reshuffling).run 2

/-- A consumer that is retired while a message goes around still receives it; one that
comes does not. -/
theorem Chronicle.registerExact_registered :
    RegisterExact [1, 2] [] registered ∧ registered.stuck = false ∧
      registered.demand = .reach "all" .toAll ∧
      (registered.bus.consumersOf "all").map Consumer.id = [1, 2] ∧
      (registered.run 20).answer = .count 2 ∧
      ((registered.run 20).bus.consumersOf "all").map Consumer.id = [1, 3] := by
  let before := (Traffic.new (.new default 0)).start reshuffling
  have begun : Chronicle LeavesNone (.new (.new default 0)) [] [] before := .begins .here rfl _
  have first : Chronicle LeavesNone (.new (.new default 0)) [1] [] (before.run 1) :=
    .step begun (by decide +kernel) rfl
  have second : Chronicle LeavesNone (.new (.new default 0)) [1, 2] [] registered :=
    .step first (by decide +kernel) rfl
  obtain ⟨holds, free⟩ := second.registerExact
  exact ⟨holds, free fun _ => id, rfl, by decide +kernel⟩

end Traffic

end CausalTrace
