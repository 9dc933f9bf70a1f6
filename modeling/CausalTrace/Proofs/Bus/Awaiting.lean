import CausalTrace.Proofs.Bus.Custody
import CausalTrace.Proofs.Bus.Hooking

/-!
# Handlers and those who may answer them

A handler waits at a reply address, and somebody has a stake in the address: a dispatch that has
still to hand the request over, or whoever has its delivery.  It waits as long as the stake lasts
and nothing is sent to the address.  `Bus.Awaits` says so of a bus, the stakes and what was posted,
and every demand that is met preserves it, if no handler takes a delivery over.
-/

namespace CausalTrace

/-! ## Reply addresses -/

/-- The reply addresses that were handed out. -/
def askedAt (postings : List Posting) : List String :=
  postings.filterMap fun
    | .asked address => some address
    | .sent _ _ => none

/-- Nothing was sent to a reply address since it was handed out. -/
def unanswered : List Posting → String → Bool
  | [], _ => false
  | .asked other :: earlier, address => other == address || unanswered earlier address
  | .sent other _ :: earlier, address => other != address && unanswered earlier address

/-- The addresses of a longer history are those of its parts. -/
theorem askedAt_append (later earlier : List Posting) :
    askedAt (later ++ earlier) = askedAt later ++ askedAt earlier :=
  List.filterMap_append

/-- An address that waits for an answer has been handed out. -/
theorem mem_askedAt_of_unanswered {postings : List Posting} {address : String}
    (quiet : unanswered postings address = true) : address ∈ askedAt postings := by
  induction postings with
  | nil => cases quiet
  | cons posting earlier ih =>
    cases posting with
    | asked other =>
      rw [unanswered, Bool.or_eq_true, beq_iff_eq] at quiet
      rcases quiet with rfl | before
      · exact .head _
      · exact .tail _ (ih before)
    | sent other receiver =>
      rw [unanswered, Bool.and_eq_true] at quiet
      exact ih quiet.2

/-- What is sent to an address ends the wait, until the address is handed out anew. -/
theorem mem_askedAt_of_unanswered_append {later earlier : List Posting} {address : String}
    {receiver : Receiver}
    (quiet : unanswered (later ++ .sent address receiver :: earlier) address = true) :
    address ∈ askedAt later := by
  induction later with
  | nil => simp [unanswered] at quiet
  | cons posting later ih =>
    cases posting with
    | asked other =>
      rw [List.cons_append, unanswered, Bool.or_eq_true, beq_iff_eq] at quiet
      rcases quiet with rfl | before
      · exact .head _
      · exact .tail _ (ih before)
    | sent other receiver =>
      rw [List.cons_append, unanswered, Bool.and_eq_true] at quiet
      exact ih quiet.2

namespace Bus

variable {bus after : Bus} {stakes stakes' : List String} {postings : List Posting}

/-- The addresses at which handlers wait. -/
def awaiting (bus : Bus) : List String := bus.waiting.map Waiting.address

/-- A handler waits at an address if it would be found there. -/
theorem mem_awaiting_iff {address : String} :
    address ∈ bus.awaiting ↔ (bus.waitingAt address).isSome = true := by
  simp [awaiting, waitingAt, List.find?_isSome]

/-- Finding out who receives a message takes the handler at its address away, and no other one. -/
theorem awaiting_reached (bus : Bus) (address : String) (mode : Mode) :
    (bus.reached address mode).awaiting = bus.awaiting.filter (· != address) := by
  rw [awaiting, waiting_reached, awaiting, List.filter_map]
  rfl

/-- A handler that is placed waits last, at the address of the next number. -/
theorem awaiting_await (bus : Bus) (handler : Handler) (owned : List Delivery) :
    (bus.await handler owned).2.awaiting = bus.awaiting ++ [replyAddress bus.next] := by
  simp [awaiting, await]

/-- Letting handlers go takes away those at their addresses. -/
theorem awaiting_without (bus : Bus) (addresses : List String) :
    (bus.without addresses).awaiting = bus.awaiting.filter (· ∉ addresses) := by
  rw [awaiting, without, awaiting, List.filter_map]
  rfl

/-- A message goes to a handler just where one waits. -/
theorem receiver_eq_handler_iff {address : String} {mode : Mode} :
    bus.receiver address mode = .handler ↔ address ∈ bus.awaiting := by
  rw [mem_awaiting_iff]
  unfold receiver
  split <;> simp [*]

/-! ## Handlers and what they wait for -/

/-- Handlers wait for those who have a stake in a reply address to which nothing was sent
since it was handed out. -/
structure Awaits (bus : Bus) (stakes : List String) (postings : List Posting) : Prop where
  waits : ∀ address, address ∈ bus.awaiting ↔
    address ∈ stakes ∧ unanswered postings address = true
  once : bus.awaiting.Nodup
  single : stakes.Nodup
  asked : ∀ address ∈ stakes, address ∈ askedAt postings
  distinct : (askedAt postings).Nodup
  numbered : ∀ address ∈ askedAt postings, ∃ number < bus.next, address = replyAddress number
  /-- A handler receives the first message to its address. -/
  first : ∀ later address earlier, postings = later ++ .sent address .handler :: earlier →
    unanswered earlier address = true

/-- Nobody waits on an empty bus. -/
theorem Awaits.empty : Bus.empty.Awaits [] [] where
  waits address := by simp [awaiting, Bus.empty]
  once := .nil
  single := .nil
  asked := nofun
  distinct := .nil
  numbered := nofun
  first later address earlier split := by simp at split

/-- What changes neither who waits nor who has a stake makes no difference. -/
theorem Awaits.aside (awaits : bus.Awaits stakes postings) (same : after.awaiting = bus.awaiting)
    (next : bus.next ≤ after.next) (those : stakes.Perm stakes') :
    after.Awaits stakes' postings where
  waits address := by rw [same, awaits.waits, those.mem_iff]
  once := same ▸ awaits.once
  single := those.nodup_iff.1 awaits.single
  asked address among := awaits.asked address (those.mem_iff.2 among)
  distinct := awaits.distinct
  numbered address among := by
    obtain ⟨number, less, same⟩ := awaits.numbered address among
    exact ⟨number, Nat.lt_of_lt_of_le less next, same⟩
  first := awaits.first

/-- A handler that is reached has its reply. -/
theorem Awaits.sent (awaits : bus.Awaits stakes postings) (address : String) (mode : Mode) :
    (bus.reached address mode).Awaits stakes
      (.sent address (bus.receiver address mode) :: postings) where
  waits other := by
    rw [awaiting_reached, List.mem_filter, awaits.waits, unanswered, Bool.and_eq_true, and_assoc,
      and_comm (a := unanswered postings other = true), bne_comm]
  once := by
    rw [awaiting_reached]
    exact awaits.once.filter _
  single := awaits.single
  asked := awaits.asked
  distinct := awaits.distinct
  numbered other among := by
    obtain ⟨number, less, same⟩ := awaits.numbered other among
    exact ⟨number, Nat.lt_of_lt_of_le less (bus.sameHooks_reached address mode).next, same⟩
  first later other earlier split := by
    cases later with
    | nil =>
      rw [List.nil_append, List.cons.injEq, Posting.sent.injEq] at split
      obtain ⟨⟨rfl, handler⟩, rfl⟩ := split
      exact ((awaits.waits address).1 (receiver_eq_handler_iff.1 handler)).2
    | cons posting later =>
      rw [List.cons_append, List.cons.injEq] at split
      exact awaits.first later other earlier split.2

/-- A new handler waits at an address that nobody has had. -/
theorem Awaits.await (awaits : bus.Awaits stakes postings) (handler : Handler) :
    (bus.await handler []).2.Awaits (replyAddress bus.next :: stakes)
      (.asked (replyAddress bus.next) :: postings) := by
  -- The address is that of a number that has not been given out.
  have unheard : replyAddress bus.next ∉ askedAt postings := by
    intro among
    obtain ⟨number, less, same⟩ := awaits.numbered _ among
    exact absurd (replyAddress_injective same) (Nat.ne_of_gt less)
  have strange : replyAddress bus.next ∉ stakes := fun among => unheard (awaits.asked _ among)
  refine ⟨fun other => ?_, ?_, ?_, ?_, ?_, ?_, ?_⟩
  · rw [awaiting_await, List.mem_append, List.mem_singleton, awaits.waits, List.mem_cons,
      unanswered, Bool.or_eq_true, beq_iff_eq]
    constructor
    · rintro (⟨stake, quiet⟩ | rfl)
      · exact ⟨.inr stake, .inr quiet⟩
      · exact ⟨.inl rfl, .inl rfl⟩
    · rintro ⟨rfl | stake, mark⟩
      · exact .inr rfl
      · rcases mark with rfl | quiet
        · exact absurd stake strange
        · exact .inl ⟨stake, quiet⟩
  · rw [awaiting_await, List.nodup_append]
    refine ⟨awaits.once, List.nodup_singleton _, ?_⟩
    rintro other there _ new rfl
    rw [List.mem_singleton] at new
    exact strange (new ▸ ((awaits.waits other).1 there).1)
  · exact List.nodup_cons.2 ⟨strange, awaits.single⟩
  · rintro other (_ | ⟨_, stake⟩)
    · exact .head _
    · exact .tail _ (awaits.asked other stake)
  · exact List.nodup_cons.2 ⟨unheard, awaits.distinct⟩
  · rintro other (_ | ⟨_, among⟩)
    · exact ⟨bus.next, Nat.lt_succ_self _, rfl⟩
    · obtain ⟨number, less, same⟩ := awaits.numbered other among
      exact ⟨number, Nat.lt_succ_of_lt less, same⟩
  · intro later other earlier split
    cases later with
    | nil => cases split
    | cons posting later =>
      rw [List.cons_append, List.cons.injEq] at split
      exact awaits.first later other earlier split.2

/-- A handler goes with the last stake in its address. -/
theorem Awaits.without {addresses : List String}
    (awaits : bus.Awaits (addresses ++ stakes) postings) :
    (bus.without addresses).Awaits stakes postings where
  waits other := by
    rw [awaiting_without, List.mem_filter, awaits.waits, List.mem_append, decide_eq_true_eq]
    have apart := (List.nodup_append.1 awaits.single).2.2
    constructor
    · rintro ⟨⟨among | stake, quiet⟩, stays⟩
      · exact absurd among stays
      · exact ⟨stake, quiet⟩
    · rintro ⟨stake, quiet⟩
      exact ⟨⟨.inr stake, quiet⟩, fun gone => apart other gone other stake rfl⟩
  once := by
    rw [awaiting_without]
    exact awaits.once.filter _
  single := (List.nodup_append.1 awaits.single).2.1
  asked other stake := awaits.asked other (List.mem_append_right _ stake)
  distinct := awaits.distinct
  numbered := awaits.numbered
  first := awaits.first

/-- An address that was handed out and sent to stays answered, as it is not handed out again. -/
theorem Awaits.answered (awaits : bus.Awaits stakes postings) {later earlier : List Posting}
    {address : String} {receiver : Receiver}
    (split : postings = later ++ .sent address receiver :: earlier)
    (asked : address ∈ askedAt earlier) : unanswered postings address = false := by
  rw [Bool.eq_false_iff]
  intro quiet
  have distinct := awaits.distinct
  rw [split, askedAt_append, List.nodup_append] at distinct
  rw [split] at quiet
  exact distinct.2.2 address (mem_askedAt_of_unanswered_append quiet) address asked rfl

/-- A handler that has received a message receives no other one. -/
theorem Awaits.last (awaits : bus.Awaits stakes postings) {later earlier : List Posting}
    {address : String} (split : postings = later ++ .sent address .handler :: earlier) :
    .sent address .handler ∉ later := by
  intro again
  obtain ⟨latest, between, rfl⟩ := List.append_of_mem again
  rw [List.append_assoc, List.cons_append] at split
  have quiet := awaits.first _ _ _ split
  have before := mem_askedAt_of_unanswered
    (awaits.first (latest ++ .sent address .handler :: between) address earlier (by simp [split]))
  have distinct := awaits.distinct
  rw [split, askedAt_append, List.nodup_append] at distinct
  have distinct := distinct.2.1
  change (askedAt (between ++ .sent address .handler :: earlier)).Nodup at distinct
  rw [askedAt_append, List.nodup_append] at distinct
  exact distinct.2.2 address (mem_askedAt_of_unanswered_append quiet) address before rfl

/-! ## Demands -/

/-- Handlers that are left own nothing, as before. -/
theorem Light.reached (light : bus.Light) (address : String) (mode : Mode) :
    (bus.reached address mode).Light := by
  intro waiting among
  rw [waiting_reached] at among
  exact light waiting (List.mem_of_mem_filter among)

/-- Handlers that own no delivery never lock the bus, and they stay so if none takes one over. -/
theorem Light.meet (light : bus.Light) {demand : Demand} (given : demand.given = []) :
    ∃ after, bus.meet demand = some after ∧ after.Light := by
  cases met : bus.meet demand with
  | none =>
    obtain ⟨address, -, waiting, there, delivery, owned, -⟩ := meet_eq_none_iff.1 met
    rw [light waiting (List.mem_of_find?_eq_some there)] at owned
    cases owned
  | some after =>
    refine ⟨after, rfl, ?_⟩
    cases demand with
    | reach address mode =>
      cases met
      exact light.reached address mode
    | ask handler owned address =>
      obtain rfl : owned = [] := given
      cases met
      exact (light.await handler).reached address .toOne
    | giveUp address =>
      rw [release_eq_some met]
      exact fun waiting among => light waiting (List.mem_of_mem_filter among)
    | drop deliveries =>
      rw [dropAll_eq_some met]
      exact fun waiting among => light waiting (List.mem_of_mem_filter among)
    | place side hook =>
      cases met
      cases side <;> exact light
    | _ =>
      cases met
      exact light

/-- Deliveries of requests are dropped at their reply addresses. -/
theorem Awaits.awaited (awaits : bus.Awaits stakes postings) {deliveries : List Delivery}
    (those : ∀ address ∈ repliesOf deliveries, address ∈ stakes) :
    deliveries.filterMap Bus.awaited = repliesOf deliveries := by
  apply List.filterMap_congr
  intro delivery among
  cases reply : delivery.message.reply with
  | none => simp [Bus.awaited, reply]
  | some address =>
    have stake := those address (List.mem_filterMap.2 ⟨delivery, among, reply⟩)
    obtain ⟨number, -, same⟩ := awaits.numbered address (awaits.asked address stake)
    simp [Bus.awaited, reply, Option.filter, same, isReplyAddress_replyAddress]

/-- Whatever is demanded, handlers go on to wait for those who have a stake. -/
theorem Awaits.meet (awaits : bus.Awaits stakes postings) {demand : Demand}
    (given : demand.given = []) (met : bus.meet demand = some after)
    (those : (bus.opened demand ++ stakes).Perm
      (repliesOf demand.dropped ++ (demand.givenUp ++ stakes'))) :
    after.Awaits stakes' (bus.postings demand ++ postings) := by
  cases demand with
  | reach address mode =>
    cases met
    exact (awaits.aside rfl (Nat.le_refl _) those).sent address mode
  | ask handler owned address =>
    obtain rfl : owned = [] := given
    cases met
    have asked := awaits.await handler
    exact (asked.aside rfl (Nat.le_refl _) those).sent address .toOne
  | giveUp address =>
    have those : stakes.Perm ([address] ++ stakes') := those
    rw [release_eq_some met]
    exact (awaits.aside rfl (Nat.le_refl _) those).without
  | drop deliveries =>
    have staked : ∀ address ∈ repliesOf deliveries, address ∈ stakes :=
      fun address among => those.mem_iff.2 (List.mem_append_left _ among)
    rw [dropAll_eq_some met, awaits.awaited staked]
    exact (awaits.aside rfl (Nat.le_refl _) those).without
  | place side hook =>
    cases met
    cases side <;> exact awaits.aside rfl (Nat.le_succ _) those
  | consume =>
    cases met
    exact awaits.aside rfl (Nat.le_succ _) those
  | nothing | retire | remove =>
    cases met
    exact awaits.aside rfl (Nat.le_refl _) those

end Bus

end CausalTrace
