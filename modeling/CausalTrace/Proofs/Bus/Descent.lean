import CausalTrace.Proofs.Bus.Capturing
import CausalTrace.Proofs.Bus.Forwarding
import CausalTrace.Proofs.Bus.Stepping
import Mathlib.Data.List.Forall2
import Mathlib.Data.Set.Operations

/-!
# What is recorded of descent

On a traced bus every message leaves with an identity of its own, which says what the message
descends from, and every delivery of it is recorded under that same identity.  This holds however
deeply consumers and reply handlers send from within deliveries: the dispatches under way form a
stack, and the innermost is the one whose message is handed over next.  Which dispatches are under
way is read off what has been seen.
-/

namespace CausalTrace

/-! ## Dispatches under way -/

/-- A dispatch as it is seen from outside. -/
structure Dispatch where
  draft : Draft
  /-- The message as it left. -/
  message : Message
  /-- What hooks offered when it left. -/
  offers : List Offer
  /-- How many deliveries have been made of it. -/
  made : Nat

/-- Whether something that is seen has to do with no dispatch. -/
def Sight.isAside : Sight → Bool
  | sent _ _ _ | handed _ _ _ | reached _ => false
  | enlisted _ | retired _ | pending _ => true

namespace Dispatch

/-- The dispatches under way after something more was seen, the innermost first. -/
def follow (dispatches : List Dispatch) : Sight → List Dispatch
  | .sent draft message offers => ⟨draft, message, offers, 0⟩ :: dispatches
  | .handed _ _ _ =>
    match dispatches with
    | [] => []
    | dispatch :: outer => { dispatch with made := dispatch.made + 1 } :: outer
  | .reached _ => dispatches.tail
  | .enlisted _ | .retired _ | .pending _ => dispatches

/-- The dispatches that are under way after a history. -/
def underWay (seen : List Sight) : List Dispatch :=
  seen.foldl follow []

/-- What is seen last is followed last. -/
theorem underWay_append (seen : List Sight) (shown : Option Sight) :
    underWay (seen ++ shown.toList) = shown.toList.foldl follow (underWay seen) :=
  List.foldl_append

/-- What has to do with no dispatch begins and ends none. -/
theorem underWay_aside (seen : List Sight) {shown : Option Sight}
    (aside : shown.all Sight.isAside = true) : underWay (seen ++ shown.toList) = underWay seen := by
  rw [underWay_append]
  cases shown with
  | none => rfl
  | some sight =>
    cases sight with
    | enlisted | retired | pending => rfl
    | sent | handed | reached => cases aside

end Dispatch

/-! ## What a step of a traced bus does -/

namespace Traffic

/-- What a step does to the dispatches under way and to the recording, and what it shows. -/
inductive Moves (traffic after : Traffic) : Option Sight → Prop where
  | sends (draft : Draft) (reply : Option String) (call : Call) {offers : List Offer}
      (message : call.message = traffic.leaving draft reply)
      (offered : offers
        = traffic.allOffer .outbound .sent call.message (traffic.identityOf draft))
      (unserved : call.targets.length = call.count)
      (begun : after.calls = call :: traffic.calls)
      (recorded : after.recording =
        { traffic.recording.leaveAll offers with ids := traffic.recording.ids.advance }) :
      Moves traffic after (some (.sent draft call.message offers))
  | hands {call outer} (target : Handler × List Delivery) {later}
      (innermost : traffic.calls = call :: outer) (unserved : call.targets = target :: later)
      (served : after.calls = { call with targets := later } :: outer)
      (recorded : ∀ identity, call.message.headers.Carries identity → after.recording =
        traffic.recording.leaveAll (traffic.allOffer .inbound .received call.message identity)) :
      Moves traffic after (some (traffic.handing call.message target.1))
  | returns {call outer} (innermost : traffic.calls = call :: outer) (served : call.targets = [])
      (ended : after.calls = outer) (recorded : after.recording = traffic.recording) :
      Moves traffic after (some (.reached call.count))
  | rests {shown : Option Sight} (aside : shown.all Sight.isAside = true)
      (same : after.calls = traffic.calls) (recorded : after.recording = traffic.recording) :
      Moves traffic after shown

variable {traffic after : Traffic}

/-- Finding out who receives a message begins no dispatch. -/
theorem calls_targets (traffic : Traffic) (message : Message) (mode : Mode) :
    (traffic.targets message mode).2.calls = traffic.calls := by
  unfold targets
  split <;> rfl

/-- Going on with a bus neither begins nor ends a dispatch. -/
theorem calls_andThen (traffic : Traffic) (bus : Option Bus) :
    (traffic.andThen bus).calls = traffic.calls := by
  cases bus <;> rfl

/-- The dispatch that ends has been taken off before. -/
theorem calls_conclude (traffic : Traffic) (call : Call) :
    (traffic.conclude call).calls = traffic.calls := by
  unfold conclude
  split
  · split
    · exact calls_andThen _ _
    · rfl
  · rfl

/-- A dispatch begins with the message and the traffic that the hooks leave. -/
theorem exists_call_send {hooked : Traffic} {message left : Message}
    (applied : traffic.applyHooks .outbound message = (left, hooked)) (mode : Mode)
    (owned : List Delivery) (next : Nat → Program) :
    ∃ call : Call, call.message = left ∧ call.targets.length = call.count ∧
      (traffic.send message mode owned next).calls = call :: hooked.calls ∧
      (traffic.send message mode owned next).recording = hooked.recording := by
  unfold send
  rw [applied]
  exact ⟨⟨left, (hooked.targets left mode).1, _, message.reply, owned, next⟩, rfl, rfl,
    congrArg _ (calls_targets hooked left mode), recording_targets hooked left mode⟩

/-- Sending begins a dispatch, whoever waits on the bus for replies. -/
theorem Traced.moves_sends (traced : traffic.Traced) {bus : Bus}
    (same : bus.hooks = traffic.bus.hooks) (draft : Draft) (reply : Option String) (mode : Mode)
    (owned : List Delivery) (next : Nat → Program) :
    let prepared := { traffic with bus := bus }.prepare draft reply
    Moves traffic (prepared.2.send prepared.1 mode owned next)
      (some ({ traffic with bus := bus }.sending draft reply)) := by
  have hooks (side : Side) : { traffic with bus := bus }.hooksOn side = traffic.hooksOn side := by
    rw [hooksOn, hooksOn, same]
  have still : Traced { traffic with bus := bus } := traced.of_same rfl hooks
  obtain ⟨shown, applied⟩ := still.sending draft reply
  obtain ⟨call, left, unserved, begun, recorded⟩ := exists_call_send applied mode owned next
  intro prepared
  rw [shown, ← left]
  rw [← left] at recorded
  refine .sends draft reply call left ?_ unserved begun recorded
  rw [allOffer, allOffer, hooks]
  rfl

/-- What a program asks for on a traced bus either begins a dispatch or leaves them all alone. -/
theorem Traced.moves_advance (traced : traffic.Traced) (owned : List Delivery)
    (program : Program) :
    Moves traffic (traffic.advance owned program) (traffic.asking owned program) := by
  cases program with
  | dispatch draft mode next => exact traced.moves_sends rfl draft none mode owned next
  | request draft name onReply given next =>
    let moved := (owned.partition fun delivery => given.contains delivery.number).1
    have hooks : (traffic.bus.await ⟨name, onReply⟩ moved).2.hooks = traffic.bus.hooks := by
      funext side
      cases side <;> rfl
    exact traced.moves_sends hooks draft (some (Bus.replyAddress traffic.bus.next)) .toOne
      (owned.partition fun delivery => given.contains delivery.number).2 next
  | finish answer => exact .rests rfl (calls_andThen _ _) (recording_andThen _ _)
  | hold slot number next =>
    simp only [advance]
    split
    · exact .rests rfl rfl rfl
    · exact .rests rfl (calls_andThen _ _) (recording_andThen _ _)
  | drop number next => exact .rests rfl (calls_andThen _ _) (recording_andThen _ _)
  | _ => exact .rests rfl rfl rfl

/-- While no program runs, the innermost dispatch is served or returns. -/
theorem Traced.moves_continue (traced : traffic.Traced)
    (continued : traffic.continue? = some after) : Moves traffic after traffic.continuing := by
  cases innermost : traffic.calls with
  | nil =>
    rw [continue?, innermost] at continued
    cases continued
  | cons call outer =>
    rw [continue?, innermost] at continued
    rw [continuing, innermost]
    dsimp only at continued ⊢
    cases unserved : call.targets with
    | nil =>
      rw [unserved] at continued
      cases continued
      exact .returns innermost unserved (calls_conclude _ call) (recording_conclude _ call)
    | cons target later =>
      rw [unserved] at continued
      cases continued
      have still : Traced { traffic with calls := { call with targets := later } :: outer } :=
        traced.of_same rfl fun _ => rfl
      refine .hands target innermost unserved ?_ fun identity carries => ?_
      · obtain ⟨message, recording, hooked, -⟩ :=
          applyHooks_captures still.onlyCaptures .inbound call.message
        unfold serve
        rw [hooked]
        rfl
      · unfold serve
        rw [(still.handing carries target.1).2]
        rfl

/-- So every step of a traced bus is one of these. -/
theorem Traced.moves (traced : traffic.Traced) (stepped : traffic.step = some after) :
    Moves traffic after traffic.sight? := by
  unfold step at stepped
  unfold sight?
  by_cases stuck : traffic.stuck = true
  · rw [if_pos stuck] at stepped
    cases stepped
  · rw [if_neg stuck] at stepped ⊢
    cases running : traffic.running with
    | some program =>
      rw [running] at stepped
      cases stepped
      exact traced.moves_advance program.owned program.program
    | none =>
      rw [running] at stepped
      exact traced.moves_continue stepped

end Traffic

/-! ## What is kept along a course -/

/-- A dispatch whose message left with an identity, which some hooks, each once,
offered an event of. -/
structure Dispatch.RecordedAs (dispatch : Dispatch) (identity : Causality) : Prop where
  carries : dispatch.message.headers.Carries identity
  offered : ∃ hooks time, hooks ≠ [] ∧
    dispatch.offers = Hook.allOffer hooks (dispatch.message.event identity .sent time)

/-- A dispatch under way is the one that was seen to begin, and has as many deliveries left as
it has still to make. -/
structure Call.Continues (call : Call) (dispatch : Dispatch) : Prop where
  message : call.message = dispatch.message
  made : dispatch.made + call.targets.length = call.count
  recorded : ∃ identity, dispatch.RecordedAs identity

namespace Sight

/-- A message that is seen carries an identity.  That of one that was sent is under an id that
has been drawn. -/
def IsMarked (ids : IdSource) : Sight → Prop
  | sent _ message _ => ∃ identity turn, message.headers.Carries identity ∧
      identity.id = ids.draw turn ∧ turn < ids.drawn
  | handed _ delivery _ => ∃ identity, delivery.message.headers.Carries identity
  | enlisted _ | retired _ | reached _ | pending _ => True

/-- More may be drawn. -/
theorem IsMarked.mono {before after : IdSource} {sight : Sight} (marked : sight.IsMarked before)
    (source : after.draw = before.draw) (drawn : before.drawn ≤ after.drawn) :
    sight.IsMarked after := by
  cases sight with
  | sent draft message offers =>
    obtain ⟨identity, turn, carries, id, earlier⟩ := marked
    exact ⟨identity, turn, carries, source ▸ id, Nat.lt_of_lt_of_le earlier drawn⟩
  | handed | enlisted | retired | reached | pending => exact marked

/-- What shows no message shows none that is unmarked. -/
theorem isMarked_of_isAside {sight : Sight} (aside : sight.isAside = true) (ids : IdSource) :
    sight.IsMarked ids := by
  cases sight with
  | enlisted | retired | pending => trivial
  | sent | handed | reached => cases aside

end Sight

namespace Traffic

/-- What a course of a traced bus keeps: the dispatches under way are those that were seen to
begin, and what was seen is marked. -/
structure Keeps (seen : List Sight) (traffic : Traffic) : Prop where
  calls : List.Forall₂ Call.Continues traffic.calls (Dispatch.underWay seen)
  marked : ∀ sight ∈ seen, sight.IsMarked traffic.recording.ids

variable {seen : List Sight} {traffic after : Traffic}

/-- What others do makes no difference. -/
theorem Keeps.attends (keeps : Keeps seen traffic) (attends : Attends traffic after) :
    Keeps seen after := by
  cases attends with
  | elapses elapsed =>
    cases elapsed with
    | recording after source drawn =>
      exact { keeps with marked := fun sight among => (keeps.marked sight among).mono source drawn }
  | place pair => exact { keeps with }
  | remove pair => exact { keeps with }

/-- The innermost dispatch is the one that was last seen to begin and has not returned. -/
theorem Keeps.innermost (keeps : Keeps seen traffic) {call : Call} {outer : List Call}
    (innermost : traffic.calls = call :: outer) :
    ∃ dispatch dispatches, Dispatch.underWay seen = dispatch :: dispatches ∧
      call.Continues dispatch ∧ List.Forall₂ Call.Continues outer dispatches := by
  have calls := keeps.calls
  rw [innermost] at calls
  cases seen : Dispatch.underWay seen with
  | nil =>
    rw [seen] at calls
    cases calls
  | cons dispatch dispatches =>
    rw [seen] at calls
    cases calls with
    | cons first rest => exact ⟨dispatch, dispatches, rfl, first, rest⟩

/-- A draft that leaves a traced bus is recorded as what it leaves as. -/
theorem Traced.recordedAs (traced : traffic.Traced) (draft : Draft) (reply : Option String)
    {call : Call} (message : call.message = traffic.leaving draft reply) :
    Dispatch.RecordedAs ⟨draft, call.message,
      traffic.allOffer .outbound .sent call.message (traffic.identityOf draft), 0⟩
      (traffic.identityOf draft) where
  carries := message ▸ traffic.carries_leaving draft reply
  offered := by
    obtain ⟨places, some, -, outbound, -⟩ := traced
    refine ⟨traffic.hooksOn .outbound, traffic.recording.clock, ?_, rfl⟩
    rw [outbound]
    exact mt List.map_eq_nil_iff.1 some

/-- A step of a traced bus goes on with what is kept. -/
theorem Keeps.step (keeps : Keeps seen traffic) (traced : traffic.Traced)
    (stepped : traffic.step = some after) : Keeps (seen ++ traffic.sight?.toList) after := by
  have moves := traced.moves stepped
  generalize traffic.sight? = shown at moves
  -- What was seen earlier stays marked, so only what this step shows has to be looked at.
  have marked (source : after.recording.ids.draw = traffic.recording.ids.draw)
      (drawn : traffic.recording.ids.drawn ≤ after.recording.ids.drawn)
      (now : ∀ sight ∈ shown, sight.IsMarked after.recording.ids) :
      ∀ sight ∈ seen ++ shown.toList, sight.IsMarked after.recording.ids := by
    intro sight among
    rcases List.mem_append.1 among with earlier | last
    · exact (keeps.marked sight earlier).mono source drawn
    · exact now sight (Option.mem_toList.1 last)
  cases moves with
  | sends draft reply call message offered unserved begun recorded =>
    subst offered
    have recordedAs := traced.recordedAs draft reply message
    constructor
    · rw [begun, Dispatch.underWay_append]
      exact .cons ⟨rfl, (Nat.zero_add _).trans unserved, _, recordedAs⟩ keeps.calls
    · refine marked (by rw [recorded]; rfl) (by rw [recorded]; exact Nat.le_succ _) ?_
      rintro _ ⟨⟩
      rw [recorded]
      exact ⟨_, traffic.recording.ids.drawn, recordedAs.carries, rfl, Nat.lt_succ_self _⟩
  | @hands call outer target later innermost unserved served recorded =>
    obtain ⟨dispatch, dispatches, first, continues, rest⟩ := keeps.innermost innermost
    obtain ⟨identity, recordedAs⟩ := continues.recorded
    have carries : call.message.headers.Carries identity :=
      continues.message ▸ recordedAs.carries
    have same : after.recording.ids = traffic.recording.ids := by
      rw [recorded identity carries, Recording.ids_leaveAll]
    rw [(traced.handing carries target.1).1] at marked ⊢
    constructor
    · rw [served, Dispatch.underWay_append, first]
      refine .cons ⟨continues.message, ?_, identity, recordedAs.carries, recordedAs.offered⟩ rest
      have made := continues.made
      rw [unserved, List.length_cons] at made
      change dispatch.made + 1 + later.length = call.count
      omega
    · refine marked (by rw [same]) (Nat.le_of_eq (by rw [same])) ?_
      rintro _ ⟨⟩
      exact ⟨identity, carries⟩
  | @returns call outer innermost served ended recorded =>
    obtain ⟨dispatch, dispatches, first, -, rest⟩ := keeps.innermost innermost
    constructor
    · rw [ended, Dispatch.underWay_append, first]
      exact rest
    · refine marked (by rw [recorded]) (Nat.le_of_eq (by rw [recorded])) ?_
      rintro _ ⟨⟩
      trivial
  | rests aside same recorded =>
    constructor
    · rw [same, Dispatch.underWay_aside seen aside]
      exact keeps.calls
    · refine marked (by rw [recorded]) (Nat.le_of_eq (by rw [recorded])) fun sight among => ?_
      exact Sight.isMarked_of_isAside ((Option.all_eq_true _ _).1 aside sight among) _

/-- So does a course of one. -/
theorem Keeps.of_course {recording : Recording} {program : Program} {count : Nat}
    (course : Course Attends Traced ((Traffic.new recording).start program) count seen traffic) :
    Keeps seen traffic := by
  induction course with
  | here => exact ⟨.nil, fun _ among => nomatch among⟩
  | meanwhile _ done ih => exact ih.attends done
  | step _ traced stepped ih => exact ih.step traced stepped

end Traffic

/-! ## Faithful records -/

/-- What hooks offer in a step that is seen. -/
def Sight.offers : Sight → List Offer
  | sent _ _ offers | handed _ _ offers => offers
  | enlisted _ | retired _ | reached _ | pending _ => []

/-- Where no message is seen, no event is offered. -/
theorem Sight.offers_of_aside {shown : Option Sight} (aside : shown.all isAside = true) :
    (shown.map offers).getD [] = [] := by
  cases shown with
  | none => rfl
  | some sight =>
    cases sight with
    | enlisted | retired | pending => rfl
    | sent | handed | reached => cases aside

namespace Traffic

/-- What hooks offer in the next step. -/
def offered (traffic : Traffic) : List Offer :=
  (traffic.sight?.map Sight.offers).getD []

/-- A message leaves under an identity of its own, which says just what its draft says of descent.
Each outbound hook offers one event of it. -/
structure SendsUnder (identity : Causality) (seen : List Sight) (traffic : Traffic) (draft : Draft)
    (message : Message) (offers : List Offer) : Prop where
  carries : message.headers.Carries identity
  lineage : identity = (draft.lineage.getD .root).identity identity.id
  unused : ∀ other left offers', .sent other left offers' ∈ seen →
    ∀ known, left.headers.Carries known → known.id ≠ identity.id
  offered : offers = traffic.allOffer .outbound .sent message identity
  /-- What is sent through a delivery descends from the message that was delivered, alone. -/
  descends : ∀ who delivery offers', .handed who delivery offers' ∈ seen →
    draft.lineage = some (.below delivery.message) →
      ∃ parent, delivery.message.headers.Carries parent ∧ identity.parents = [parent.id] ∧
        identity.label = parent.label

/-- The message of the innermost dispatch is handed over as it left.  Each inbound hook offers one
event of it, under the identity of those that were offered when it left. -/
structure HandsUnder (identity : Causality) (seen : List Sight) (traffic : Traffic)
    (delivery : Delivery) (offers : List Offer) : Prop where
  innermost : ∃ dispatch outer, Dispatch.underWay seen = dispatch :: outer ∧
    dispatch.RecordedAs identity ∧ delivery.message = dispatch.message
  offered : offers = traffic.allOffer .inbound .received delivery.message identity

/-- What a step does after a history is recorded as it is. -/
structure StepsFaithfully (seen : List Sight) (traffic after : Traffic) : Prop where
  /-- What hooks offer is pushed at their recorders, and nothing else happens to them. -/
  pushes : ∃ ids, after.recording = { traffic.recording.leaveAll traffic.offered with ids := ids }
  sent : ∀ draft message offers, traffic.sight? = some (.sent draft message offers) →
    ∃ identity, SendsUnder identity seen traffic draft message offers
  handed : ∀ who delivery offers, traffic.sight? = some (.handed who delivery offers) →
    ∃ identity, HandsUnder identity seen traffic delivery offers
  /-- A sender learns how many deliveries were made. -/
  reached : ∀ count, traffic.sight? = some (.reached count) →
    ∃ dispatch outer, Dispatch.underWay seen = dispatch :: outer ∧ dispatch.made = count

variable {seen : List Sight} {traffic after : Traffic}

/-- Whoever is about to reply, to send, to publish, to ask or to use a sender through a delivery
that was handed over sends a message whose only parent is the one delivered, under its label. -/
theorem StepsFaithfully.through (faithful : StepsFaithfully seen traffic after) {who : String}
    {delivery : Delivery} {offers : List Offer} (given : .handed who delivery offers ∈ seen)
    (free : traffic.stuck = false) {owned : List Delivery} {program : Program}
    (running : traffic.running = some ⟨owned, program⟩)
    (through : program.SendsThrough delivery) :
    ∃ draft message offers identity parent,
      traffic.sight? = some (.sent draft message offers) ∧
      message.headers.Carries identity ∧ delivery.message.headers.Carries parent ∧
      identity.parents = [parent.id] ∧ identity.label = parent.label ∧
      offers = traffic.allOffer .outbound .sent message identity := by
  obtain ⟨draft, message, offers', shown, lineage⟩ := through.asking traffic owned
  have shows : traffic.sight? = some (.sent draft message offers') := by
    rw [sight?, free, if_neg Bool.false_ne_true, running]
    exact shown
  obtain ⟨identity, sends⟩ := faithful.sent draft message offers' shows
  obtain ⟨parent, carries, parents, label⟩ := sends.descends who delivery offers given lineage
  exact ⟨draft, message, offers', identity, parent, shows, sends.carries, carries, parents, label,
    sends.offered⟩

/-- A message that is sent leaves under an id that no earlier one had. -/
theorem Keeps.sendsUnder (keeps : Keeps seen traffic)
    (distinct : Set.InjOn traffic.recording.ids.draw {turn | turn ≤ traffic.recording.ids.drawn})
    (draft : Draft) (reply : Option String) :
    SendsUnder (traffic.identityOf draft) seen traffic draft (traffic.leaving draft reply)
      (traffic.allOffer .outbound .sent (traffic.leaving draft reply)
        (traffic.identityOf draft)) where
  carries := traffic.carries_leaving draft reply
  lineage := rfl
  unused other left offers' among known carries := by
    obtain ⟨identity, turn, carried, id, drawn⟩ := keeps.marked _ among
    cases Except.ok.inj (carries.symm.trans carried)
    rw [id]
    intro same
    exact absurd (distinct (Nat.le_of_lt drawn) (Nat.le_refl _) same) (Nat.ne_of_lt drawn)
  offered := rfl
  descends who delivery offers' among lineage := by
    obtain ⟨parent, carries⟩ := keeps.marked _ among
    refine ⟨parent, carries, ?_, ?_⟩
    all_goals
      rw [identityOf, lineage, Option.getD_some, Lineage.below, carries.causality]
      rfl

/-- A message that is handed over has the identity under which it left. -/
theorem Keeps.handsUnder (keeps : Keeps seen traffic) {call : Call} {outer : List Call}
    (innermost : traffic.calls = call :: outer) :
    ∃ identity, call.message.headers.Carries identity ∧ ∀ number,
      HandsUnder identity seen traffic ⟨number, call.message⟩
        (traffic.allOffer .inbound .received call.message identity) := by
  obtain ⟨dispatch, dispatches, first, continues, -⟩ := keeps.innermost innermost
  obtain ⟨identity, recordedAs⟩ := continues.recorded
  refine ⟨identity, continues.message ▸ recordedAs.carries, fun number => ⟨?_, rfl⟩⟩
  exact ⟨dispatch, dispatches, first, recordedAs, continues.message⟩

/-- Whatever program runs and however its course went, the next step of a traced bus is recorded as
it is, provided that the ids that were drawn differ from each other and from the next. -/
theorem Course.steps_faithfully {recording : Recording} {program : Program} {count : Nat}
    (course : Course Attends Traced ((Traffic.new recording).start program) count seen traffic)
    (distinct : Set.InjOn traffic.recording.ids.draw {turn | turn ≤ traffic.recording.ids.drawn})
    (traced : traffic.Traced) (stepped : traffic.step = some after) :
    StepsFaithfully seen traffic after := by
  have keeps := Keeps.of_course course
  have moves := traced.moves stepped
  generalize shown : traffic.sight? = sight at moves
  -- A step shows a sending, a handing or the end of a dispatch, or none of these.
  cases moves with
  | sends draft reply call message offered unserved begun recorded =>
    subst offered
    have sends := keeps.sendsUnder distinct draft reply
    rw [← message] at sends
    constructor
    case pushes =>
      rw [recorded, offered, shown]
      exact ⟨_, rfl⟩
    case sent =>
      intro other left offers same
      cases shown.symm.trans same
      exact ⟨_, sends⟩
    case handed => exact fun _ _ _ same => nomatch shown.symm.trans same
    case reached => exact fun _ same => nomatch shown.symm.trans same
  | @hands call outer target later innermost unserved served recorded =>
    obtain ⟨identity, carries, hands⟩ := keeps.handsUnder innermost
    rw [(traced.handing carries target.1).1] at shown
    constructor
    case pushes =>
      rw [recorded identity carries, offered, shown]
      exact ⟨_, rfl⟩
    case handed =>
      intro who delivery offers same
      cases shown.symm.trans same
      exact ⟨identity, hands _⟩
    case sent => exact fun _ _ _ same => nomatch shown.symm.trans same
    case reached => exact fun _ same => nomatch shown.symm.trans same
  | @returns call outer innermost served ended recorded =>
    obtain ⟨dispatch, dispatches, first, continues, -⟩ := keeps.innermost innermost
    constructor
    case pushes =>
      rw [recorded, offered, shown]
      exact ⟨_, rfl⟩
    case reached =>
      intro count same
      cases shown.symm.trans same
      have made := continues.made
      rw [served, List.length_nil] at made
      exact ⟨dispatch, dispatches, first, made⟩
    case sent => exact fun _ _ _ same => nomatch shown.symm.trans same
    case handed => exact fun _ _ _ same => nomatch shown.symm.trans same
  | rests aside same recorded =>
    have quiet (seen : Sight) (here : traffic.sight? = some seen) : seen.isAside = true :=
      (Option.all_eq_true _ _).1 aside seen (shown.symm.trans here)
    constructor
    case pushes =>
      have nothing : traffic.offered = [] := by
        rw [offered, shown]
        exact Sight.offers_of_aside aside
      rw [recorded, nothing]
      exact ⟨_, rfl⟩
    case sent => exact fun _ _ _ here => nomatch quiet _ here
    case handed => exact fun _ _ _ here => nomatch quiet _ here
    case reached => exact fun _ here => nomatch quiet _ here

/-- A consumer that replies is about to be asked on a bus with two recorders, of which one has room
for one event only. -/
def aboutToAsk : Traffic :=
  (Traffic.new (((Recording.new (.counting 0) 0).add (.new 1 .dropNewest)).2.add
    (.new 8 (.block 5))).2).start
      (Script.follow "asker" 0 0
        [.consumer "ping" "ponger" [.reply (.text "pong")],
          .request "ping" (.text "hello") (some ⟨some "order", []⟩) []] none Script.ended)

/-- With a pair of hooks for either recorder every step of the question and the reply is recorded as
it is.  The eighth sends the reply and the ninth hands it over. -/
theorem Course.steps_faithfully_aboutToAsk :
    let start := ((aboutToAsk.placeHooks (.new 0)).2.placeHooks (.new 1)).2
    ∀ taken < 16, ∃ after, (run taken start).step = some after ∧
      StepsFaithfully (sights taken start) (run taken start) after := by
  intro start taken few
  have facts : ∀ taken < 16, (run taken start).step.isSome ∧
      (run taken start).recording.recorders.length = 2 ∧
      (run taken start).hooksOn .outbound = [0, 1].map (Hook.capture · .sent) ∧
      (run taken start).hooksOn .inbound = [0, 1].map (Hook.capture · .received) ∧
      ∀ turn ≤ (run taken start).recording.ids.drawn,
        ∀ other ≤ (run taken start).recording.ids.drawn,
          (run taken start).recording.ids.draw turn = (run taken start).recording.ids.draw other →
            turn = other := by
    decide +kernel
  have traced (taken : Nat) (few : taken < 16) : (run taken start).Traced := by
    obtain ⟨-, two, outbound, inbound, -⟩ := facts taken few
    refine ⟨[0, 1], List.cons_ne_nil _ _, ?_, outbound, inbound⟩
    rw [two]
    decide
  obtain ⟨goesOn, -, -, -, differ⟩ := facts taken few
  obtain ⟨after, stepped⟩ := Option.isSome_iff_exists.1 goesOn
  have placed : Course Attends Traced aboutToAsk 0 [] start :=
    .meanwhile (.meanwhile .here (.place _)) (.place _)
  have course := placed.trans (course_run Attends Traced taken start fun earlier less =>
    traced earlier (Nat.lt_trans less few))
  refine ⟨after, stepped, Course.steps_faithfully course ?_ (traced taken few) stepped⟩
  exact fun turn drawn other drawn' same => differ turn drawn other drawn' same

end Traffic

end CausalTrace
