import CausalTrace.Proofs.Bus.Awaiting
import CausalTrace.Proofs.Bus.Forwarding

/-!
# Replies come once

The handler for the reply to a request waits until something is sent to its address, its request has
reached nobody, or the delivery of its request is dropped.  So while no dispatch is under way,
handlers wait for just those deliveries of requests to whose reply address nothing was sent since,
and each handler is there once.  The first message to the address goes to it, and no later one does.

For this, no handler may own a delivery.  A handler that does takes the delivery out of the reach of
whoever would answer or drop it.
-/

namespace CausalTrace

open scoped List

namespace Traffic

variable {traffic after : Traffic} {postings : List Posting}

/-! ## Steps -/

/-- What becomes of the stakes in reply addresses. -/
theorem Passes.stakes {demand : Bus.Demand} {arrived : List Delivery}
    (passes : traffic.Passes after demand arrived) :
    (traffic.bus.opened demand ++ traffic.stakes).Perm
      (repliesOf demand.dropped ++ (demand.givenUp ++ after.stakes)) := by
  have live := passes.live.filterMap (·.message.reply)
  rw [List.filterMap_append, List.filterMap_append] at live
  let ended := demand.givenUp ++ after.underWay
  calc traffic.bus.opened demand ++ (repliesOf traffic.live ++ traffic.underWay)
    _ ~ repliesOf traffic.live ++ (traffic.bus.opened demand ++ traffic.underWay) :=
      List.perm_append_comm_assoc _ _ _
    _ ~ repliesOf traffic.live ++ (repliesOf arrived ++ ended) := passes.underWay.append_left _
    _ ~ repliesOf arrived ++ (repliesOf traffic.live ++ ended) :=
      List.perm_append_comm_assoc _ _ _
    _ = (repliesOf arrived ++ repliesOf traffic.live) ++ ended := (List.append_assoc _ _ _).symm
    _ ~ (repliesOf demand.dropped ++ repliesOf after.live) ++ ended := live.append_right _
    _ = repliesOf demand.dropped ++ (repliesOf after.live ++ ended) := List.append_assoc _ _ _
    _ ~ repliesOf demand.dropped ++ (demand.givenUp ++ after.stakes) :=
      (List.perm_append_comm_assoc _ _ _).append_left _

/-- Nothing gets out of order, and no step locks the bus. -/
theorem Tidy.step (tidy : traffic.Tidy) (leaves : traffic.LeavesNone)
    (stepped : traffic.step = some after) : after.Tidy ∧ after.stuck = false := by
  obtain ⟨bus, met, light⟩ := tidy.light.meet leaves
  have meets := step_meets stepped
  rw [met] at meets
  obtain ⟨arrived, passes⟩ := passes_step tidy leaves stepped
  have fresh : ((arrived ++ traffic.live).map Delivery.number).Nodup ∧
      ∀ delivery ∈ arrived ++ traffic.live, delivery.number < after.delivered := by
    rcases passes.numbered with ⟨rfl, same⟩ | ⟨message, rfl, next⟩
    · exact ⟨tidy.numbers, same ▸ tidy.below⟩
    · refine ⟨List.nodup_cons.2 ⟨fun among => ?_, tidy.numbers⟩, ?_⟩
      · obtain ⟨delivery, there, same⟩ := List.mem_map.1 among
        exact absurd same (Nat.ne_of_lt (tidy.below delivery there))
      · rintro delivery (_ | ⟨_, there⟩)
        · exact next ▸ Nat.lt_succ_self _
        · exact next ▸ Nat.lt_succ_of_lt (tidy.below delivery there)
  have numbers := (passes.live.map Delivery.number).nodup_iff.1 fresh.1
  rw [List.map_append] at numbers
  refine ⟨⟨?_, passes.slots, (List.nodup_append.1 numbers).2.1, fun delivery among => ?_⟩, ?_⟩
  · exact meets.bus ▸ light
  · exact fresh.2 delivery (passes.live.mem_iff.2 (List.mem_append_right _ among))
  · exact meets.stuck

/-! ## Every history -/

/-- Handlers wait for those who have a stake, nothing is out of order and the bus is not locked. -/
structure InOrder (postings : List Posting) (traffic : Traffic) : Prop where
  tidy : traffic.Tidy
  free : traffic.stuck = false
  awaits : traffic.bus.Awaits traffic.stakes postings

/-- Nothing is out of order on a new bus. -/
theorem inOrder_new (recording : Recording) : InOrder [] (.new recording) where
  tidy := ⟨nofun, .nil, .nil, nofun⟩
  free := rfl
  awaits := .empty

/-- A step keeps the order unless it leaves a delivery to a handler. -/
theorem InOrder.step (inOrder : InOrder postings traffic) (leaves : traffic.LeavesNone)
    (stepped : traffic.step = some after) : InOrder (traffic.postings ++ postings) after := by
  obtain ⟨tidy, free⟩ := inOrder.tidy.step leaves stepped
  obtain ⟨arrived, passes⟩ := passes_step inOrder.tidy leaves stepped
  obtain ⟨bus, met, -⟩ := inOrder.tidy.light.meet leaves
  have same : after.bus = bus := by rw [(step_meets stepped).bus, met, Option.getD_some]
  exact ⟨tidy, free, same ▸ inOrder.awaits.meet leaves met passes.stakes⟩

/-- What changes neither the deliveries nor who waits makes no difference. -/
theorem InOrder.aside (inOrder : InOrder postings traffic) (waiting : after.bus.waiting
    = traffic.bus.waiting) (next : traffic.bus.next ≤ after.bus.next)
    (slots : after.slots = traffic.slots) (live : after.live = traffic.live)
    (calls : after.calls = traffic.calls) (delivered : after.delivered = traffic.delivered)
    (free : after.stuck = traffic.stuck) : InOrder postings after where
  tidy := by
    obtain ⟨light, once, numbers, below⟩ := inOrder.tidy
    refine ⟨?_, slots ▸ once, live ▸ numbers, ?_⟩
    · rw [Bus.Light, waiting]
      exact light
    · rw [live, delivered]
      exact below
  free := free.trans inOrder.free
  awaits := by
    have stakes : after.stakes = traffic.stakes := by
      rw [stakes, stakes, underWay, underWay, live, calls]
    rw [stakes]
    exact inOrder.awaits.aside (by rw [Bus.awaiting, Bus.awaiting, waiting]) next (.refl _)

/-- Whatever happens at a bus on which no handler takes a delivery over. -/
theorem History.inOrder {recording : Recording}
    (history : History LeavesNone (.new recording) postings traffic) :
    InOrder postings traffic := by
  induction history with
  | here => exact inOrder_new recording
  | step _ leaves stepped ih => exact ih.step leaves stepped
  | @begins postings traffic _ idle program ih =>
    rw [isIdle, Bool.and_eq_true, Option.isNone_iff_eq_none] at idle
    refine ih.aside rfl (Nat.le_refl _) rfl ?_ rfl rfl rfl
    rw [live, live, idle.1]
    rfl
  | attends _ attended ih =>
    obtain ⟨bus, recording, rfl, changed⟩ := attended.eq_of_rehooked
    exact ih.aside changed.waiting changed.next rfl rfl rfl rfl rfl

/-! ## What a dispatch returns -/

/-- A dispatch has begun above the others, and what was posted of it is whom its message goes to. -/
def Begins (outer calls : List Call) (postings : List Posting) : Prop :=
  ∃ call receiver earlier, ∃ bus : Bus, calls = call :: outer ∧
    postings = .sent call.message.address receiver :: earlier ∧
      call.targets = bus.received call.message.address receiver

/-- Sending begins one dispatch, to whoever the message was posted to. -/
theorem begins_send (traffic : Traffic) (draft : Draft) (reply : Option String) (mode : Mode)
    (owned : List Delivery) (next : Nat → Program) (earlier : List Posting) :
    Begins traffic.calls
      ((traffic.prepare draft reply).2.send (traffic.prepare draft reply).1 mode owned next).calls
      (.sent draft.address (traffic.bus.receiver draft.address mode) :: earlier) := by
  obtain ⟨message, _, _, _, address, -, sent⟩ := traffic.send_prepared draft reply mode owned next
  rw [sent, ← address]
  exact ⟨⟨message, _, _, _, _, _⟩, _, earlier, traffic.bus, rfl, rfl, rfl⟩

/-- A program that sends begins a dispatch, and no other one does. -/
theorem calls_advance (traffic : Traffic) (owned : List Delivery) (program : Program) :
    let posted := traffic.bus.postings (program.demand traffic.slots owned)
    (traffic.advance owned program).calls = traffic.calls ∧ posted = [] ∨
      Begins traffic.calls (traffic.advance owned program).calls posted := by
  cases program with
  | dispatch draft mode next => exact .inr (traffic.begins_send draft none mode owned next [])
  | request draft name onReply given next =>
    let parted := owned.partition fun delivery => given.contains delivery.number
    let bus := (traffic.bus.await ⟨name, onReply⟩ parted.1).2
    exact .inr (begins_send { traffic with bus := bus } draft _ .toOne parted.2 next _)
  | finish answer =>
    obtain ⟨bus, stuck, same⟩ := andThen_eq _ (traffic.bus.dropAll owned)
    rw [advance, finish, same]
    exact .inl ⟨rfl, rfl⟩
  | hold slot number next =>
    simp only [advance, Program.demand]
    cases (separate owned number).1 with
    | nil => exact .inl ⟨rfl, rfl⟩
    | cons delivery others =>
      simp only
      obtain ⟨bus, stuck, same⟩ := andThen_eq _ _
      rw [same]
      exact .inl ⟨rfl, rfl⟩
  | drop number next =>
    simp only [advance]
    obtain ⟨bus, stuck, same⟩ := andThen_eq _ _
    rw [same]
    exact .inl ⟨rfl, rfl⟩
  | _ => exact .inl ⟨rfl, rfl⟩

/-- How a step changes the dispatches under way: one begins, and that is posted, or somebody is
served in the innermost one, or it ends. -/
theorem calls_step (stepped : traffic.step = some after) :
    after.calls = traffic.calls ∧ traffic.postings = [] ∨
      Begins traffic.calls after.calls traffic.postings ∨
      ∃ call outer, traffic.calls = call :: outer ∧ traffic.postings = [] ∧
        ((∃ later, after.calls = { call with targets := later } :: outer) ∨
          after.calls = outer ∧ after.running = some ⟨call.owned, call.next call.count⟩) := by
  rcases step_cases stepped with ⟨running, there, rfl⟩ | ⟨call, outer, idle, calls, goesOn⟩
  · have begun := traffic.calls_advance running.owned running.program
    rw [postings, demand, there]
    exact begun.imp_right .inl
  · have aside : traffic.postings = [] := by
      rw [postings, demand, idle, calls]
      simp only [Call.demand]
      split
      · split <;> rfl
      · rfl
    refine .inr (.inr ⟨call, outer, calls, aside, ?_⟩)
    rcases goesOn with ⟨served, rfl⟩ | ⟨handler, brought, later, unserved, rfl⟩
    · obtain ⟨bus, stuck, ended⟩ := conclude_eq { traffic with calls := outer } call
      rw [ended]
      exact .inr ⟨rfl, rfl⟩
    · obtain ⟨_, -, -, recording, journal, names, served⟩ := serve_eq
        { traffic with calls := { call with targets := later } :: outer } call.message handler
          brought
      rw [served]
      exact .inl ⟨later, rfl⟩

/-- However it goes on from here, dispatches are under way above the outer ones, or they have ended
and a program went on below them. -/
def Returns (traffic : Traffic) (outer : List Call) (running : Running) : Prop :=
  ∀ fit postings later, History fit traffic postings later →
    (∃ call inner, later.calls = call :: inner ++ outer) ∨
      ∃ first middle rest, History fit traffic first middle ∧ middle.calls = outer ∧
        middle.running = some running ∧ History fit middle rest later

/-- A dispatch that has begun returns how many there were at first. -/
theorem returns_call {call : Call} {outer : List Call} (calls : traffic.calls = call :: outer) :
    traffic.Returns outer ⟨call.owned, call.next call.count⟩ := by
  intro fit postings later history
  -- The dispatch stays where it is, with fewer and fewer who have still to be served.
  suffices stays :
      (∃ inner targets, later.calls = inner ++ { call with targets := targets } :: outer) ∨
        ∃ first middle rest, History fit traffic first middle ∧ middle.calls = outer ∧
          middle.running = some ⟨call.owned, call.next call.count⟩ ∧
          History fit middle rest later by
    refine stays.imp_left ?_
    rintro ⟨_ | ⟨first, inner⟩, targets, same⟩
    · exact ⟨_, [], same⟩
    · exact ⟨first, inner ++ [{ call with targets := targets }], by simpa using same⟩
  induction history with
  | here => exact .inl ⟨[], call.targets, calls⟩
  | @step postings before after prior isFit stepped ih =>
    rcases ih with ⟨inner, targets, same⟩ | ⟨first, middle, rest, begun, ended, goes, since⟩
    · rcases calls_step stepped with
        ⟨still, -⟩ | ⟨new, -, -, -, more, -⟩ | ⟨head, tail, split, -, change⟩
      · exact .inl ⟨inner, targets, still.trans same⟩
      · exact .inl ⟨new :: inner, targets, by rw [more, same, List.cons_append]⟩
      · rw [same] at split
        cases inner with
        | nil =>
          obtain ⟨rfl, rfl⟩ := List.cons.inj split
          rcases change with ⟨fewer, served⟩ | ⟨ended, goes⟩
          · exact .inl ⟨[], fewer, served⟩
          · exact .inr ⟨_, after, [], .step prior isFit stepped, ended, goes, .here⟩
        | cons innermost inner =>
          obtain ⟨rfl, rfl⟩ := List.cons.inj split
          rcases change with ⟨fewer, served⟩ | ⟨ended, -⟩
          · exact .inl ⟨{ innermost with targets := fewer } :: inner, targets, served⟩
          · exact .inl ⟨inner, targets, ended⟩
    · exact .inr ⟨first, middle, _, begun, ended, goes, .step since isFit stepped⟩
  | @begins postings before prior idle program ih =>
    rcases ih with ⟨inner, targets, same⟩ | ⟨first, middle, rest, begun, ended, goes, since⟩
    · rw [isIdle, Bool.and_eq_true, List.isEmpty_iff, same] at idle
      simp at idle
    · exact .inr ⟨first, middle, _, begun, ended, goes, .begins since idle program⟩
  | attends prior attended ih =>
    rcases ih with ⟨inner, targets, same⟩ | ⟨first, middle, rest, begun, ended, goes, since⟩
    · obtain ⟨bus, recording, rfl, -⟩ := attended.eq_of_rehooked
      exact .inl ⟨inner, targets, same⟩
    · exact .inr ⟨first, middle, _, begun, ended, goes, .attends since attended⟩

/-! ## What holds of replies -/

/-- What holds of replies at any moment of a history. -/
structure RepliesOnce (postings : List Posting) (traffic : Traffic) : Prop where
  /-- The bus has not locked itself. -/
  free : traffic.stuck = false
  /-- No reply address is handed out twice. -/
  distinct : (askedAt postings).Nodup
  /-- The reply address of a delivery was handed out, and no other delivery has it. -/
  single : (repliesOf traffic.live).Nodup ∧
    ∀ address ∈ repliesOf traffic.live, address ∈ askedAt postings
  /-- While no dispatch is under way, handlers wait for just those deliveries of requests to whose
  reply address nothing was sent since. -/
  pending : traffic.calls = [] →
    traffic.bus.awaiting.Perm ((repliesOf traffic.live).filter (unanswered postings)) ∧
      traffic.bus.pending =
        traffic.live.countP fun delivery => delivery.message.reply.any (unanswered postings)
  /-- A handler receives the first message to its reply address, and nothing after that. -/
  first : ∀ later address earlier, postings = later ++ .sent address .handler :: earlier →
    unanswered earlier address = true ∧ .sent address .handler ∉ later
  /-- Nothing that was answered comes to be unanswered. -/
  lasting : ∀ later address receiver earlier,
    postings = later ++ .sent address receiver :: earlier →
      address ∈ askedAt earlier → unanswered postings address = false
  /-- The first reply through a delivery returns true and every later one false, unless there are
  consumers at the reply address. -/
  replies : ∀ delivery ∈ traffic.live, ∀ address, delivery.message.reply = some address →
    traffic.bus.consumersOf address = [] → ∀ owned body next,
      traffic.running = some ⟨owned, .reply delivery body next⟩ →
        (∃ receiver, traffic.postings = [.sent address receiver]) ∧
          ∃ after, traffic.step = some after ∧
            after.Returns traffic.calls ⟨owned, next (unanswered postings address)⟩
  /-- What is dropped takes the handlers at its own reply addresses with it, and no delivery or
  request that is left has one of these. -/
  drops : ∀ deliveries after, traffic.demand = .drop deliveries → traffic.step = some after →
    after.bus = traffic.bus.without (repliesOf deliveries) ∧
      ∀ address ∈ after.stakes, address ∉ repliesOf deliveries

/-- A message to one returns whether a handler waits at its address, if no consumers are there. -/
theorem returns_dispatch (free : traffic.stuck = false) {owned : List Delivery} {draft : Draft}
    {next : Nat → Program} (running : traffic.running = some ⟨owned, .dispatch draft .toOne next⟩)
    (nobody : traffic.bus.consumersOf draft.address = []) :
    ∃ after, traffic.step = some after ∧ after.Returns traffic.calls
      ⟨owned, next (if draft.address ∈ traffic.bus.awaiting then 1 else 0)⟩ := by
  obtain ⟨message, recording, journal, names, -, -, sent⟩ :=
    traffic.send_prepared draft none .toOne owned next
  have count : (traffic.bus.received draft.address
      (traffic.bus.receiver draft.address .toOne)).length
        = if draft.address ∈ traffic.bus.awaiting then 1 else 0 := by
    simp only [Bus.mem_awaiting_iff, Bus.receiver, nobody]
    cases there : traffic.bus.waitingAt draft.address <;> simp [Bus.received, there]
  rw [← count]
  refine ⟨traffic.advance owned (.dispatch draft .toOne next), by simp [step, free, running], ?_⟩
  simp only [advance, sent]
  exact @returns_call _ ⟨message, _, _, none, owned, next⟩ _ rfl

namespace InOrder

variable (inOrder : InOrder postings traffic)

include inOrder

/-- Between dispatches exactly those handlers wait whose requests live unanswered. -/
theorem pending (idle : traffic.calls = []) :
    traffic.bus.awaiting.Perm ((repliesOf traffic.live).filter (unanswered postings)) ∧
      traffic.bus.pending =
        traffic.live.countP fun delivery => delivery.message.reply.any (unanswered postings) := by
  have awaits := inOrder.awaits
  have stakes : traffic.stakes = repliesOf traffic.live := by
    rw [stakes, underWay, idle, List.flatMap_nil, List.append_nil]
  have waiting : traffic.bus.awaiting.Perm
      ((repliesOf traffic.live).filter (unanswered postings)) := by
    refine (List.perm_ext_iff_of_nodup awaits.once (stakes ▸ awaits.single.filter _)).2 ?_
    intro address
    rw [awaits.waits, stakes, List.mem_filter]
  refine ⟨waiting, ?_⟩
  have count := waiting.length_eq
  rw [← List.countP_eq_length_filter, repliesOf, List.countP_filterMap, Bus.awaiting,
    List.length_map] at count
  rw [Bus.pending, count]
  apply List.countP_congr
  intro delivery _
  cases delivery.message.reply <;> rfl

/-- A reply is posted once, and is told whether the request was unanswered. -/
theorem replies {delivery : Delivery} (among : delivery ∈ traffic.live) {address : String}
    (reply : delivery.message.reply = some address)
    (nobody : traffic.bus.consumersOf address = []) {owned : List Delivery} {body : Payload}
    {next : Bool → Program} (running : traffic.running = some ⟨owned, .reply delivery body next⟩) :
    (∃ receiver, traffic.postings = [.sent address receiver]) ∧
      ∃ after, traffic.step = some after ∧
        after.Returns traffic.calls ⟨owned, next (unanswered postings address)⟩ := by
  simp only [Program.reply, reply] at running
  have stake := mem_stakes among reply
  obtain ⟨after, stepped, returns⟩ := returns_dispatch inOrder.free running nobody
  refine ⟨⟨traffic.bus.receiver address .toOne, ?_⟩, after, stepped, ?_⟩
  · rw [Traffic.postings, demand, running]
    rfl
  · have value : decide (0 < if address ∈ traffic.bus.awaiting then 1 else 0)
        = unanswered postings address := by
      have waits := inOrder.awaits.waits address
      cases quiet : unanswered postings address <;> simp [waits, stake, quiet]
    rwa [← value]

/-- Dropping deliveries lets their handlers go, and nobody has a stake in them any more. -/
theorem drops {deliveries : List Delivery} (demand : traffic.demand = .drop deliveries)
    (stepped : traffic.step = some after) :
    after.bus = traffic.bus.without (repliesOf deliveries) ∧
      ∀ address ∈ after.stakes, address ∉ repliesOf deliveries := by
  have leaves : traffic.LeavesNone := by rw [LeavesNone, demand]; rfl
  obtain ⟨arrived, passes⟩ := passes_step inOrder.tidy leaves stepped
  obtain ⟨bus, met, -⟩ := inOrder.tidy.light.meet leaves
  have those := passes.stakes
  rw [demand] at met those
  have same : after.bus = bus := by
    rw [(step_meets stepped).bus, demand, met, Option.getD_some]
  have staked : ∀ address ∈ repliesOf deliveries, address ∈ traffic.stakes :=
    fun address gone => those.mem_iff.2 (List.mem_append_left _ gone)
  refine ⟨?_, fun address stake gone => ?_⟩
  · rw [same, Bus.dropAll_eq_some met, inOrder.awaits.awaited staked]
  · have single := those.nodup_iff.1 inOrder.awaits.single
    exact (List.nodup_append.1 single).2.2 address gone address stake rfl

/-- Where all is in order, every request is answered once at most. -/
theorem repliesOnce_of_inOrder : RepliesOnce postings traffic where
  free := inOrder.free
  distinct := inOrder.awaits.distinct
  single := ⟨(List.nodup_append.1 inOrder.awaits.single).1, fun address among =>
    inOrder.awaits.asked address (List.mem_append_left _ among)⟩
  pending := inOrder.pending
  first _ _ _ split := ⟨inOrder.awaits.first _ _ _ split, inOrder.awaits.last split⟩
  lasting _ _ _ _ split asked := inOrder.awaits.answered split asked
  replies _ among _ reply nobody _ _ _ running := inOrder.replies among reply nobody running
  drops _ _ demand stepped := inOrder.drops demand stepped

end InOrder

/-- Whatever happens at a bus on which no handler takes a delivery over, replies come once. -/
theorem History.repliesOnce {recording : Recording}
    (history : History LeavesNone (.new recording) postings traffic) :
    RepliesOnce postings traffic :=
  history.inOrder.repliesOnce_of_inOrder

/-- A consumer puts a request aside. -/
def puttingAside : Program :=
  .consume "later" "later" (fun delivery => .hold "slot" delivery.number (.finish .done)) fun _ =>
    .request ⟨"later", .text "", none⟩ "reply" (fun _ => .finish .done) [] fun _ => .finish .done

/-- Somebody else takes it up and answers it twice. -/
def answeringTwice : Program :=
  .take "slot" fun
    | none => .finish .nothing
    | some delivery =>
      .reply delivery (.text "yes") fun first => .reply delivery (.text "no") fun second =>
        .finish (.flag (first && !second))

/-- The moment before the first answer. -/
def takenUp : Traffic :=
  ((((Traffic.new (.new default 0)).start puttingAside).run 7).start answeringTwice).run 1

/-- A request that was put aside is answered once by somebody else; the second answer
comes to nothing. -/
theorem History.repliesOnce_takenUp :
    RepliesOnce [.sent "later" (.oneOf 0), .asked (Bus.replyAddress 2)] takenUp ∧
      takenUp.calls.isEmpty = true ∧ takenUp.bus.pending = 1 ∧
      (takenUp.run 20).answer = .flag true ∧ (takenUp.run 20).bus.pending = 0 := by
  let asked := (Traffic.new (.new default 0)).start puttingAside
  have asks : History LeavesNone (.new (.new default 0)) (asked.postingsOf 7) (asked.run 7) := by
    have begun : History LeavesNone (.new (.new default 0)) [] asked := .begins .here rfl _
    simpa using begun.trans (history_run LeavesNone 7 asked (by decide +kernel))
  have taken : History LeavesNone (.new (.new default 0))
      (((asked.run 7).start answeringTwice).postingsOf 1 ++ asked.postingsOf 7) takenUp :=
    (asks.begins (by decide +kernel) answeringTwice).trans
      (history_run LeavesNone 1 _ (by decide +kernel))
  have posted : ((asked.run 7).start answeringTwice).postingsOf 1 ++ asked.postingsOf 7
      = [.sent "later" (.oneOf 0), .asked (Bus.replyAddress 2)] := by decide +kernel
  rw [posted] at taken
  exact ⟨taken.repliesOnce, by decide +kernel⟩

end Traffic

end CausalTrace
