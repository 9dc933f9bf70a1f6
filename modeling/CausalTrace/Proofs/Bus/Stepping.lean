import CausalTrace.Bus.Traffic

/-!
# What traffic does to recordings

A program can do much to a bus, but it reaches the recorders in two ways only: hooks capture
messages, and messages that are sent with a lineage are given a new identity.  A property of
recordings that both preserve therefore holds after any program, whatever consumers and hooks there
are.
-/

namespace CausalTrace

/-- A property of recordings that everything preserves which traffic does to them. -/
structure Recording.Invariant (property : Recording → Prop) : Prop where
  capture : ∀ {recording : Recording}, property recording →
    ∀ place direction message, property (recording.capture place direction message).2.2
  identify : ∀ {recording : Recording}, property recording →
    ∀ lineage, property (recording.identify lineage).2
  workAt : ∀ {recording : Recording}, property recording →
    ∀ place, property (recording.workAt place)
  tick : ∀ {recording : Recording}, property recording →
    ∀ clock, property { recording with clock := clock }

namespace Traffic

/-- Traffic of any kind: programs of outside callers one after the other, while time passes. -/
inductive Leads (start : Traffic) : Traffic → Prop where
  | here : Leads start start
  | perform {traffic} (prior : Leads start traffic) (program : Program) :
      Leads start (traffic.perform program)
  | tick {traffic} (prior : Leads start traffic) (clock : Int64) :
      Leads start { traffic with recording := { traffic.recording with clock := clock } }

/-! ## What leaves recordings alone -/

/-- Editing headers records nothing. -/
theorem recording_edits {who : String} (edits : List HeaderEdit) (state : Message × Traffic) :
    (edits.foldl (edit who) state).2.recording = state.2.recording := by
  induction edits generalizing state with
  | nil => rfl
  | cons change rest ih =>
    rw [List.foldl_cons, ih]
    cases change <;> rfl

/-- Finding out who receives a message records nothing. -/
theorem recording_targets (traffic : Traffic) (message : Message) (mode : Mode) :
    (traffic.targets message mode).2.recording = traffic.recording := by
  unfold targets
  split <;> rfl

/-- Going on with a bus records nothing. -/
theorem recording_andThen (traffic : Traffic) (bus : Option Bus) :
    (traffic.andThen bus).recording = traffic.recording := by
  cases bus <;> rfl

/-- The end of a dispatch records nothing. -/
theorem recording_conclude (traffic : Traffic) (call : Call) :
    (traffic.conclude call).recording = traffic.recording := by
  unfold conclude
  split
  · split
    · exact recording_andThen _ _
    · rfl
  · rfl

end Traffic

/-! ## What reaches them -/

namespace Recording.Invariant

open Traffic

variable {property : Recording → Prop} (invariant : Recording.Invariant property)
  {traffic : Traffic}

include invariant

/-- One hook captures, or does nothing to the recording. -/
theorem of_applyHook {state : Message × Traffic} (hook : Hook)
    (holds : property state.2.recording) : property (applyHook state hook).2.recording := by
  cases hook with
  | edit who edits =>
    rw [applyHook, recording_edits]
    exact holds
  | capture place direction => exact invariant.capture holds place direction state.1

/-- Hooks capture one after the other. -/
theorem of_applyHooks (side : Side) (message : Message) (holds : property traffic.recording) :
    property (traffic.applyHooks side message).2.recording := by
  have each (hooks : List Hook) {state : Message × Traffic}
      (before : property state.2.recording) :
      property (hooks.foldl applyHook state).2.recording := by
    induction hooks generalizing state with
    | nil => exact before
    | cons hook rest ih => exact ih (invariant.of_applyHook hook before)
  exact each _ holds

/-- Preparing a draft gives out an id at most. -/
theorem of_prepare (draft : Draft) (reply : Option String) (holds : property traffic.recording) :
    property (traffic.prepare draft reply).2.recording := by
  unfold prepare
  split
  next => exact holds
  next lineage _ => exact invariant.identify holds lineage

/-- Sending lets the outbound hooks capture. -/
theorem of_send (message : Message) (mode : Mode) (owned : List Delivery) (next : Nat → Program)
    (holds : property traffic.recording) :
    property (traffic.send message mode owned next).recording := by
  have hooked := invariant.of_applyHooks .outbound message holds
  rw [← recording_targets _ (traffic.applyHooks .outbound message).1 mode] at hooked
  exact hooked

/-- Serving lets the inbound hooks capture. -/
theorem of_serve (message : Message) (handler : Handler) (brought : List Delivery)
    (holds : property traffic.recording) :
    property (traffic.serve message handler brought).recording :=
  invariant.of_applyHooks .inbound message holds

/-- A dispatch that goes on serves the next handler or ends. -/
theorem of_continue {after : Traffic} (holds : property traffic.recording)
    (continued : traffic.continue? = some after) : property after.recording := by
  unfold continue? at continued
  split at continued
  next => cases continued
  next call outer _ =>
    split at continued
    next =>
      cases continued
      rw [recording_conclude]
      exact holds
    next handler brought later _ =>
      cases continued
      exact invariant.of_serve call.message handler brought holds

/-- The next thing that a program does captures a message at most. -/
theorem of_advance (owned : List Delivery) (program : Program)
    (holds : property traffic.recording) :
    property (traffic.advance owned program).recording := by
  cases program with
  | finish answer =>
    rw [advance, finish, recording_andThen]
    exact holds
  | dispatch draft mode next =>
    exact invariant.of_send _ mode owned next (invariant.of_prepare draft none holds)
  | request draft name onReply given next =>
    exact invariant.of_send _ .toOne _ next (invariant.of_prepare draft _ holds)
  | hold slot number next =>
    simp only [advance]
    split
    · exact holds
    · rw [recording_andThen]
      exact holds
  | drop number next =>
    simp only [advance]
    rw [recording_andThen]
    exact holds
  | _ => exact holds

/-- One step of the bus preserves the property. -/
theorem of_step {after : Traffic} (holds : property traffic.recording)
    (stepped : traffic.step = some after) : property after.recording := by
  unfold step at stepped
  split at stepped
  next => cases stepped
  next =>
    split at stepped
    next running _ =>
      cases stepped
      exact invariant.of_advance running.owned running.program holds
    next => exact invariant.of_continue holds stepped

/-- So do any number of steps. -/
theorem of_run (limit : Nat) (holds : property traffic.recording) :
    property (Traffic.run limit traffic).recording := by
  induction limit generalizing traffic with
  | zero => exact holds
  | succ limit ih =>
    rw [Traffic.run]
    split
    next => exact holds
    next after stepped => exact ih (invariant.of_step holds stepped)

/-- Letting all writers work lets each of them work. -/
theorem of_work {recording : Recording} (holds : property recording) :
    property recording.work := by
  have each (places : List Nat) {recording : Recording} (before : property recording) :
      property (places.foldl Recording.workAt recording) := by
    induction places generalizing recording with
    | nil => exact before
    | cons place rest ih => exact ih (invariant.workAt before place)
  exact each _ holds

/-- A program of an outside caller, run to its end, preserves the property. -/
theorem of_perform (program : Program) (holds : property traffic.recording) :
    property (traffic.perform program).recording := by
  have started : property (traffic.start program).recording := holds
  exact invariant.of_work (invariant.of_run stepLimit started)

/-- What captures, work and the clock preserve holds through all traffic. -/
theorem of_leads {after : Traffic} (leads : Traffic.Leads traffic after)
    (holds : property traffic.recording) : property after.recording := by
  induction leads with
  | here => exact holds
  | perform _ program ih => exact invariant.of_perform program ih
  | tick _ clock ih => exact invariant.tick ih clock

end Recording.Invariant

end CausalTrace
