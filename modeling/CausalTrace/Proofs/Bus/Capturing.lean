import CausalTrace.Proofs.Bus.Sights
import CausalTrace.Proofs.Message.Carried

/-!
# What capture hooks do

A capture hook may give a message an identity, and it pushes one event at its recorder.  It changes
nothing else: neither where a message goes nor what it says, and of the traffic only the recording.

On a bus that is traced all hooks are those of pipelines, so a message leaves the outbound hooks
with the identity that its draft calls for, and every hook that looks at it, on either side, offers
an event with just that identity.  What is offered is what is pushed.
-/

namespace CausalTrace

/-! ## What capturing changes -/

/-- A message that differs at most in the identity that it carries. -/
structure Message.Resembles (message after : Message) : Prop where
  address : after.address = message.address
  reply : after.reply = message.reply
  headers : after.headers.without Causality.headerName
    = message.headers.without Causality.headerName
  body : after.body = message.body

namespace Message

/-- A message resembles itself. -/
theorem Resembles.refl (message : Message) : message.Resembles message := ⟨rfl, rfl, rfl, rfl⟩

/-- Messages that differ in their identities only do so over any number of hooks. -/
theorem Resembles.trans {message after last : Message} (first : message.Resembles after)
    (second : after.Resembles last) : message.Resembles last :=
  ⟨second.address.trans first.address, second.reply.trans first.reply,
    second.headers.trans first.headers, second.body.trans first.body⟩

end Message

/-- A sight of headers changes reserved ones only. -/
theorem Direction.without_sight (direction : Direction) (headers : Headers) (ids : IdSource) :
    (direction.sight headers ids).headers.without Causality.headerName
      = headers.without Causality.headerName := by
  unfold sight
  split
  case h_2 | h_3 => exact Headers.without_set headers _ _
  all_goals rfl

/-- A captured message goes on with its address, body, reply and ordinary headers. -/
theorem Recording.resembles_capture (recording : Recording) (place : Nat) (direction : Direction)
    (message : Message) :
    message.Resembles (recording.capture place direction message).1 := by
  unfold capture
  split
  next => exact .refl message
  next => exact ⟨rfl, rfl, direction.without_sight message.headers recording.ids, rfl⟩

/-- All hooks capture messages. -/
def Bus.OnlyCaptures (bus : Bus) : Prop :=
  ∀ side, ∀ hook ∈ (bus.hooks side).map Prod.snd, ∃ place direction, hook = .capture place direction

namespace Traffic

/-- Capture hooks change a message's identity and the recording, and nothing else. -/
theorem applyHooks_captures {traffic : Traffic} (captures : traffic.bus.OnlyCaptures) (side : Side)
    (message : Message) :
    ∃ after recording, traffic.applyHooks side message
        = (after, { traffic with recording := recording }) ∧ message.Resembles after := by
  have each (hooks : List Hook)
      (captures : ∀ hook ∈ hooks, ∃ place direction, hook = .capture place direction)
      (state : Message × Traffic) :
      ∃ after recording, hooks.foldl applyHook state
        = (after, { state.2 with recording := recording }) ∧ state.1.Resembles after := by
    induction hooks generalizing state with
    | nil => exact ⟨_, _, rfl, .refl _⟩
    | cons hook rest ih =>
      obtain ⟨place, direction, rfl⟩ := captures hook (List.mem_cons_self ..)
      obtain ⟨after, recording, same, resembles⟩ :=
        ih (fun other among => captures other (List.mem_cons_of_mem _ among))
          (applyHook state (.capture place direction))
      exact ⟨after, recording, same,
        (state.2.recording.resembles_capture place direction state.1).trans resembles⟩
  exact each _ (captures side) (message, traffic)

/-- A message that is prepared has the address and the body of its draft. -/
theorem prepare_resembles (traffic : Traffic) (draft : Draft) (reply : Option String) :
    ∃ message recording, traffic.prepare draft reply
        = (message, { traffic with recording := recording }) ∧
      Message.Resembles ⟨draft.address, reply, .empty, draft.body⟩ message := by
  unfold prepare
  split
  next => exact ⟨_, _, rfl, .refl _⟩
  next lineage _ => exact ⟨_, _, rfl, rfl, rfl, Headers.without_set .empty _ _, rfl⟩

end Traffic

/-! ## What is pushed at recorders -/

namespace Recording

@[simp] theorem length_recorders_leave (recording : Recording) (place : Nat) (malformed : Bool)
    (event : Event) :
    (recording.leave place malformed event).recorders.length = recording.recorders.length := by
  unfold leave
  split
  · rfl
  · exact List.length_set

@[simp] theorem ids_leave (recording : Recording) (place : Nat) (malformed : Bool)
    (event : Event) : (recording.leave place malformed event).ids = recording.ids := by
  unfold leave
  split <;> rfl

@[simp] theorem clock_leave (recording : Recording) (place : Nat) (malformed : Bool)
    (event : Event) : (recording.leave place malformed event).clock = recording.clock := by
  unfold leave
  split <;> rfl

/-- Ids make no difference to what is pushed. -/
theorem leave_withIds (recording : Recording) (place : Nat) (malformed : Bool) (event : Event)
    (ids : IdSource) :
    ({ recording with ids := ids } : Recording).leave place malformed event
      = { recording.leave place malformed event with ids := ids } := by
  unfold leave
  dsimp only
  split <;> rfl

/-- Pushes what a hook has offered at the recorder of the hook. -/
def leaveOffer (recording : Recording) : Offer → Recording
  | (.capture place _, some event) => recording.leave place false event
  | _ => recording

/-- Pushes what hooks have offered, one after the other. -/
def leaveAll (recording : Recording) (offers : List Offer) : Recording :=
  offers.foldl leaveOffer recording

@[simp] theorem ids_leaveAll (recording : Recording) (offers : List Offer) :
    (recording.leaveAll offers).ids = recording.ids := by
  induction offers generalizing recording with
  | nil => rfl
  | cons offer rest ih =>
    have first : (recording.leaveOffer offer).ids = recording.ids := by
      unfold leaveOffer
      split
      · exact recording.ids_leave _ _ _
      · rfl
    rw [leaveAll, List.foldl_cons, ← first]
    exact ih (recording.leaveOffer offer)

/-- Events are pushed in the same way wherever ids come from. -/
theorem leaveAll_withIds (recording : Recording) (offers : List Offer) (ids : IdSource) :
    ({ recording with ids := ids } : Recording).leaveAll offers
      = { recording.leaveAll offers with ids := ids } := by
  induction offers generalizing recording with
  | nil => rfl
  | cons offer rest ih =>
    have first : ({ recording with ids := ids } : Recording).leaveOffer offer
        = { recording.leaveOffer offer with ids := ids } := by
      unfold leaveOffer
      split
      · exact recording.leave_withIds _ _ _ ids
      · rfl
    rw [leaveAll, leaveAll, List.foldl_cons, List.foldl_cons, first]
    exact ih (recording.leaveOffer offer)

end Recording

/-! ## Messages that carry an identity -/

/-- The event of a message that carries an identity. -/
def Message.event (message : Message) (identity : Causality) (direction : Direction)
    (time : Int64) : Event :=
  ⟨message.snapshot, some identity, direction, time⟩

/-- Each of the hooks has offered the same event. -/
def Hook.allOffer (hooks : List Hook) (event : Event) : List Offer :=
  hooks.map fun hook => (hook, some event)

section Carrying

variable {message : Message} {identity : Causality}

/-- A message that carries an identity goes on as it is and is recorded under it. -/
theorem Recording.capture_of_carries {recording : Recording} {place : Nat}
    (recorded : place < recording.recorders.length) (direction : Direction)
    (carries : message.headers.Carries identity) :
    recording.offer? place direction message
        = some (message.event identity direction recording.clock) ∧
      (recording.capture place direction message).1 = message ∧
      (recording.capture place direction message).2.2
        = recording.leave place false (message.event identity direction recording.clock) := by
  have here := List.getElem?_eq_getElem recorded
  have offered : recording.offer? place direction message
      = some (message.event identity direction recording.clock) := by
    simp only [offer?, here, Option.map_some, direction.sight_of_carries carries]
    rfl
  refine ⟨offered, ?_, ?_⟩
  · simp only [capture, here, direction.sight_of_carries carries]
  · rw [capture_eq_leave, offered]
    simp only [direction.sight_of_carries carries]
    rw [← recording.ids_leave place false (message.event identity direction recording.clock)]

/-- Hooks of either direction leave a message alone that carries an identity, and each pushes the
event that it offers. -/
theorem Traffic.hooks_of_carries (carries : message.headers.Carries identity)
    (direction : Direction) (places : List Nat) (traffic : Traffic)
    (recorded : ∀ place ∈ places, place < traffic.recording.recorders.length) :
    let hooks := places.map (Hook.capture · direction)
    let offered := Hook.allOffer hooks (message.event identity direction traffic.recording.clock)
    offers hooks (message, traffic) = offered ∧
      hooks.foldl applyHook (message, traffic)
        = (message, { traffic with recording := traffic.recording.leaveAll offered }) := by
  induction places generalizing traffic with
  | nil => exact ⟨rfl, rfl⟩
  | cons place rest ih =>
    obtain ⟨offered, same, left⟩ :=
      Recording.capture_of_carries (recorded place (List.mem_cons_self ..)) direction carries
    have after : applyHook (message, traffic) (.capture place direction) = (message,
        { traffic with
          recording := traffic.recording.leave place false
            (message.event identity direction traffic.recording.clock) }) := by
      simp only [applyHook, same, left]
    obtain ⟨others, state⟩ := ih
      { traffic with
        recording := traffic.recording.leave place false
          (message.event identity direction traffic.recording.clock) }
      fun other among => by simpa using recorded other (List.mem_cons_of_mem _ among)
    simp only [Recording.clock_leave] at others state
    refine ⟨?_, ?_⟩
    · rw [List.map_cons, offers, after, others, Hook.offer?, offered]
      rfl
    · rw [List.map_cons, List.foldl_cons, after, state]
      rfl

end Carrying

/-! ## Traced buses -/

namespace Traffic

/-- The hooks are those of the recorders at some places, a pair for each. -/
structure PairedAt (places : List Nat) (traffic : Traffic) : Prop where
  recorded : ∀ place ∈ places, place < traffic.recording.recorders.length
  outbound : traffic.hooksOn .outbound = places.map (Hook.capture · .sent)
  inbound : traffic.hooksOn .inbound = places.map (Hook.capture · .received)

/-- All hooks are those of pipelines, and there is at least one. -/
def Traced (traffic : Traffic) : Prop :=
  ∃ places, places ≠ [] ∧ PairedAt places traffic

/-- Which way the hook of a pair captures on a side. -/
def Side.captured : Side → Direction
  | .outbound => .sent
  | .inbound => .received

/-- Only hooks and recorders matter. -/
theorem PairedAt.of_same {places : List Nat} {traffic other : Traffic}
    (paired : PairedAt places traffic)
    (recorders : other.recording.recorders.length = traffic.recording.recorders.length)
    (hooks : ∀ side, other.hooksOn side = traffic.hooksOn side) : PairedAt places other where
  recorded := recorders ▸ paired.recorded
  outbound := (hooks .outbound).trans paired.outbound
  inbound := (hooks .inbound).trans paired.inbound

/-- A bus is traced as long as its recordings and hooks are the same. -/
theorem Traced.of_same {traffic other : Traffic} (traced : traffic.Traced)
    (recording : other.recording = traffic.recording)
    (hooks : ∀ side, other.hooksOn side = traffic.hooksOn side) : other.Traced := by
  obtain ⟨places, some, paired⟩ := traced
  exact ⟨places, some, paired.of_same (by rw [recording]) hooks⟩

/-- Hooks of recorders capture. -/
theorem PairedAt.onlyCaptures {places : List Nat} {traffic : Traffic}
    (paired : PairedAt places traffic) : traffic.bus.OnlyCaptures := by
  intro side hook among
  change hook ∈ traffic.hooksOn side at among
  cases side with
  | outbound =>
    rw [paired.outbound] at among
    obtain ⟨place, -, rfl⟩ := List.mem_map.1 among
    exact ⟨place, .sent, rfl⟩
  | inbound =>
    rw [paired.inbound] at among
    obtain ⟨place, -, rfl⟩ := List.mem_map.1 among
    exact ⟨place, .received, rfl⟩

/-- The hooks of a traced bus capture, all of them. -/
theorem Traced.onlyCaptures {traffic : Traffic} (traced : traffic.Traced) :
    traffic.bus.OnlyCaptures := by
  obtain ⟨places, -, paired⟩ := traced
  exact paired.onlyCaptures

/-- The identity that a draft calls for, under the next id. -/
def identityOf (traffic : Traffic) (draft : Draft) : Causality :=
  (draft.lineage.getD .root).identity traffic.recording.ids.id

/-- A draft as it leaves a traced bus. -/
def leaving (traffic : Traffic) (draft : Draft) (reply : Option String) : Message :=
  ⟨draft.address, reply, (traffic.identityOf draft).attach .empty, draft.body⟩

/-- What the hooks on one side offer of a message with an identity. -/
def allOffer (traffic : Traffic) (side : Side) (direction : Direction) (message : Message)
    (identity : Causality) : List Offer :=
  Hook.allOffer (traffic.hooksOn side)
    (message.event identity direction traffic.recording.clock)

variable {traffic : Traffic}

/-- What leaves a traced bus carries the identity that its draft calls for. -/
theorem carries_leaving (traffic : Traffic) (draft : Draft) (reply : Option String) :
    (traffic.leaving draft reply).headers.Carries (traffic.identityOf draft) :=
  Causality.carries_attach (traffic.recording.ids.draw_ne_empty _) _

/-- The first hook gives an identity to a message that has none, the others find it. -/
theorem hooks_of_unmarked {message : Message}
    (unmarked : Causality.extract message.headers = .ok none) (place : Nat) (rest : List Nat)
    (recorded : ∀ other ∈ place :: rest, other < traffic.recording.recorders.length) :
    let identity := Lineage.root.identity traffic.recording.ids.id
    let after := { message with headers := identity.attach message.headers }
    let hooks := (place :: rest).map (Hook.capture · .sent)
    let offered := Hook.allOffer hooks (after.event identity .sent traffic.recording.clock)
    offers hooks (message, traffic) = offered ∧
      hooks.foldl applyHook (message, traffic) = (after, { traffic with
        recording := { traffic.recording.leaveAll offered with
          ids := traffic.recording.ids.advance } }) := by
  intro identity after hooks offered
  have carries : after.headers.Carries identity :=
    Causality.carries_attach (traffic.recording.ids.draw_ne_empty _) _
  let event := after.event identity .sent traffic.recording.clock
  let first := { traffic with
    recording := { traffic.recording.leave place false event with
      ids := traffic.recording.ids.advance } }
  have here := List.getElem?_eq_getElem (recorded place (List.mem_cons_self ..))
  have offer : traffic.recording.offer? place .sent message = some event := by
    simp only [Recording.offer?, here, Option.map_some, Direction.sight_of_unmarked unmarked]
    rfl
  have state : applyHook (message, traffic) (.capture place .sent) = (after, first) := by
    have captured := Recording.capture_eq_leave traffic.recording place .sent message
    rw [offer] at captured
    simp only [applyHook, captured, Direction.sight_of_unmarked unmarked]
    simp only [Recording.capture, here, Direction.sight_of_unmarked unmarked]
    rfl
  -- The first hook gives the message its identity; the others find it there.
  obtain ⟨others, final⟩ := hooks_of_carries carries .sent rest first fun other among => by
    simpa [first] using recorded other (List.mem_cons_of_mem _ among)
  have clock : first.recording.clock = traffic.recording.clock := Recording.clock_leave ..
  rw [clock] at others final
  constructor
  · change offers (.capture place .sent :: _) (message, traffic) = _
    rw [offers, state, others, Hook.offer?, offer]
    rfl
  · change (Hook.capture place .sent :: _).foldl applyHook (message, traffic) = _
    rw [List.foldl_cons, state, final]
    simp only [first, Recording.leaveAll_withIds]
    rfl

/-- A draft leaves a traced bus with its identity under a new id, and each hook has offered
one event of it. -/
theorem Traced.sending (traced : traffic.Traced) (draft : Draft) (reply : Option String) :
    let message := traffic.leaving draft reply
    let offered := traffic.allOffer .outbound .sent message (traffic.identityOf draft)
    traffic.sending draft reply = .sent draft message offered ∧
      (traffic.prepare draft reply).2.applyHooks .outbound (traffic.prepare draft reply).1
        = (message, { traffic with
          recording := { traffic.recording.leaveAll offered with
            ids := traffic.recording.ids.advance } }) := by
  obtain ⟨places, some, recorded, outbound, -⟩ := traced
  obtain ⟨address, body, lineage⟩ := draft
  intro message offered
  -- Either way the traffic and the message that reach the hooks are known.
  suffices hooked : ∃ before prepared,
      traffic.prepare ⟨address, body, lineage⟩ reply = (prepared, before) ∧
      before.hooksOn .outbound = traffic.hooksOn .outbound ∧
      offers (traffic.hooksOn .outbound) (prepared, before) = offered ∧
      (traffic.hooksOn .outbound).foldl applyHook (prepared, before)
        = (message, { traffic with
          recording := { traffic.recording.leaveAll offered with
            ids := traffic.recording.ids.advance } }) by
    obtain ⟨before, prepared, draft, same, shown, state⟩ := hooked
    rw [← same] at state
    have applied : before.applyHooks .outbound prepared = _ := state
    rw [Traffic.sending, draft]
    dsimp only
    rw [applied, same, shown]
    exact ⟨rfl, rfl⟩
  cases lineage with
  | none =>
    obtain ⟨place, rest, rfl⟩ := List.exists_cons_of_ne_nil some
    let unmarked : Message := ⟨address, reply, .empty, body⟩
    have bare : Causality.extract unmarked.headers = .ok none := rfl
    obtain ⟨shown, state⟩ := hooks_of_unmarked bare place rest recorded
    rw [← outbound] at shown state
    exact ⟨traffic, _, rfl, rfl, shown, state⟩
  | some lineage =>
    let before := { traffic with
      recording := { traffic.recording with ids := traffic.recording.ids.advance } }
    obtain ⟨shown, state⟩ := hooks_of_carries
      (traffic.carries_leaving ⟨address, body, lineage⟩ reply) .sent places before recorded
    rw [← outbound] at shown state
    rw [Recording.leaveAll_withIds] at state
    exact ⟨before, _, rfl, rfl, shown, state⟩

/-- A message that carries an identity is handed on as it is, and each hook has offered
one event of it. -/
theorem Traced.handing (traced : traffic.Traced) {message : Message} {identity : Causality}
    (carries : message.headers.Carries identity) (handler : Handler) :
    let offered := traffic.allOffer .inbound .received message identity
    traffic.handing message handler = .handed handler.name ⟨traffic.delivered, message⟩ offered ∧
      traffic.applyHooks .inbound message
        = (message, { traffic with recording := traffic.recording.leaveAll offered }) := by
  obtain ⟨places, some, recorded, -, inbound⟩ := traced
  obtain ⟨offered, state⟩ := hooks_of_carries carries .received places traffic recorded
  rw [← inbound] at offered state
  refine ⟨?_, state⟩
  rw [Traffic.handing, show traffic.applyHooks .inbound message = _ from state, offered]
  rfl

end Traffic

end CausalTrace
