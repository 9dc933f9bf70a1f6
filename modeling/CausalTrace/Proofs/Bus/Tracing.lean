import CausalTrace.Proofs.Bus.Hooking
import CausalTrace.Proofs.Bus.Scripts
import CausalTrace.Proofs.Bus.SideBySide

/-!
# Traced and untraced traffic

A bus whose hooks capture messages goes through the same steps as a bus without hooks, or with
others.  Capturing touches the identity that a message carries and the recording, and placing hooks
takes numbers from the counter of the bus: programs that do not look at either notice nothing.  It
makes no difference what the recorders do with what they are offered, nor when pairs of hooks come
and go.

The proof keeps two buses side by side.  One step of both preserves that they are alike, under a
renaming that has grown, and shows the same on both.
-/

namespace CausalTrace

namespace Message

/-- Messages that resemble messages that are alike are alike. -/
theorem Alike.resembling {naming : Renaming} {message message' after after' : Message}
    (alike : Message.Alike naming message message') (resembles : message.Resembles after)
    (resembles' : message'.Resembles after') : Message.Alike naming after after' where
  address := by rw [resembles.address, resembles'.address]; exact alike.address
  reply := by rw [resembles.reply, resembles'.reply]; exact alike.reply
  headers := by rw [resembles.headers, resembles'.headers]; exact alike.headers
  body := by rw [resembles.body, resembles'.body]; exact alike.body

end Message

/-! ## Traffic that is alike -/

/-- Somebody who has still to be served, and who stands for them. -/
structure Target.Alike (naming : Renaming) (target target' : Handler × List Delivery) : Prop where
  handler : Handler.Alike naming target.1 target'.1
  brought : List.Forall₂ (Delivery.Alike naming) target.2 target'.2

/-- A dispatch under way and the one that stands for it. -/
structure Call.Alike (naming : Renaming) (call call' : Call) : Prop where
  message : Message.Alike naming call.message call'.message
  targets : List.Forall₂ (Target.Alike naming) call.targets call'.targets
  count : call.count = call'.count
  replyAt : Option.Rel (Address.Alike naming) call.replyAt call'.replyAt
  owned : List.Forall₂ (Delivery.Alike naming) call.owned call'.owned
  next : ∀ later, naming.Within later → ∀ count,
    Program.Alike later (call.next count) (call'.next count)

/-- Deliveries that are put aside under the same name. -/
structure Slot.Alike (naming : Renaming) (slot slot' : String × Delivery) : Prop where
  name : slot.1 = slot'.1
  delivery : Delivery.Alike naming slot.2 slot'.2

/-- A program that runs and the one that stands for it. -/
structure Running.Alike (naming : Renaming) (running running' : Running) : Prop where
  owned : List.Forall₂ (Delivery.Alike naming) running.owned running'.owned
  program : Program.Alike naming running.program running'.program

/-- All that goes on around the program that runs, and what stands for it.  Recordings are not
compared, nor is what was written down. -/
structure Traffic.Around (naming : Renaming) (traffic traffic' : Traffic) : Prop where
  bus : Bus.Alike naming traffic.bus traffic'.bus
  slots : List.Forall₂ (Slot.Alike naming) traffic.slots traffic'.slots
  calls : List.Forall₂ (Call.Alike naming) traffic.calls traffic'.calls
  delivered : traffic.delivered = traffic'.delivered
  marks : traffic.marks = traffic'.marks
  tallies : traffic.tallies = traffic'.tallies
  stuck : traffic.stuck = traffic'.stuck

/-- Traffic of which each part stands for the same part of the other. -/
structure Traffic.Alike (naming : Renaming) (traffic traffic' : Traffic) : Prop where
  around : Traffic.Around naming traffic traffic'
  running : Option.Rel (Running.Alike naming) traffic.running traffic'.running

/-- What is seen on one bus stands for what is seen on the other.  Offers are not compared. -/
inductive Sight.Alike (naming : Renaming) : Sight → Sight → Prop where
  | sent {draft draft' message message' offers offers'} (drafts : Draft.Alike naming draft draft')
      (messages : Message.Alike naming message message') :
      Alike naming (.sent draft message offers) (.sent draft' message' offers')
  | handed {who delivery delivery' offers offers'}
      (deliveries : Delivery.Alike naming delivery delivery') :
      Alike naming (.handed who delivery offers) (.handed who delivery' offers')
  | enlisted {id id'} (paired : naming id id') : Alike naming (.enlisted id) (.enlisted id')
  | retired (found) : Alike naming (.retired found) (.retired found)
  | reached (count) : Alike naming (.reached count) (.reached count)
  | pending (count) : Alike naming (.pending count) (.pending count)

section Grows

variable {naming later : Renaming} (grows : naming.Within later)

include grows

/-- Those who are to be served stay alike while numbers are given out. -/
theorem Target.Alike.grow {target target' : Handler × List Delivery}
    (alike : Target.Alike naming target target') : Target.Alike later target target' :=
  ⟨alike.handler.grow grows, alike.brought.imp fun _ _ => .grow grows⟩

/-- Dispatches stay alike while numbers are given out. -/
theorem Call.Alike.grow {call call' : Call} (alike : Call.Alike naming call call') :
    Call.Alike later call call' where
  message := alike.message.grow grows
  targets := alike.targets.imp fun _ _ => .grow grows
  count := alike.count
  replyAt := Address.Alike.grow_option grows alike.replyAt
  owned := alike.owned.imp fun _ _ => .grow grows
  next := fun last further => alike.next last (grows.trans further)

/-- What was put aside stays alike while numbers are given out. -/
theorem Slot.Alike.grow {slot slot' : String × Delivery} (alike : Slot.Alike naming slot slot') :
    Slot.Alike later slot slot' :=
  ⟨alike.name, alike.delivery.grow grows⟩

/-- What was seen stays alike while numbers are given out. -/
theorem Sight.Alike.grow {sight sight' : Sight} (alike : Sight.Alike naming sight sight') :
    Sight.Alike later sight sight' := by
  cases alike with
  | sent drafts messages => exact .sent (drafts.grow grows) (messages.grow grows)
  | handed deliveries => exact .handed (deliveries.grow grows)
  | enlisted paired => exact .enlisted (grows paired)
  | retired found => exact .retired found
  | reached count => exact .reached count
  | pending count => exact .pending count

/-- The register is compared anew; the rest goes along. -/
theorem Traffic.Around.grow {traffic traffic' : Traffic} {bus bus' : Bus}
    (alike : Traffic.Around naming traffic traffic') (buses : Bus.Alike later bus bus') :
    Traffic.Around later { traffic with bus := bus } { traffic' with bus := bus' } :=
  { alike with
    bus := buses
    slots := alike.slots.imp fun _ _ => .grow grows
    calls := alike.calls.imp fun _ _ => .grow grows }

end Grows

/-! ## Sending and serving -/

namespace Traffic

variable {naming : Renaming} {traffic traffic' : Traffic}

/-- The traffic goes on with programs that are alike. -/
theorem Around.proceed (around : Traffic.Around naming traffic traffic')
    {owned owned' : List Delivery} {program program' : Program}
    (deliveries : List.Forall₂ (Delivery.Alike naming) owned owned')
    (programs : Program.Alike naming program program') :
    Traffic.Alike naming { traffic with running := some ⟨owned, program⟩ }
      { traffic' with running := some ⟨owned', program'⟩ } :=
  ⟨{ around with }, .some ⟨deliveries, programs⟩⟩

/-- Buses that are alike are gone on with alike; both traffics are stuck or neither. -/
theorem Alike.andThen (alike : Traffic.Alike naming traffic traffic') {bus bus' : Option Bus}
    (buses : Option.Rel (Bus.Alike naming) bus bus') :
    Traffic.Alike naming (traffic.andThen bus) (traffic'.andThen bus') := by
  cases buses with
  | none => exact ⟨{ alike.around with stuck := rfl }, alike.running⟩
  | some buses => exact ⟨{ alike.around with bus := buses }, alike.running⟩

/-- A reply goes to the handler that waits for it on either bus, everything else to consumers that
stand for each other. -/
theorem Around.targets (around : Traffic.Around naming traffic traffic')
    {message message' : Message} (messages : Message.Alike naming message message') (mode : Mode) :
    List.Forall₂ (Target.Alike naming) (traffic.targets message mode).1
        (traffic'.targets message' mode).1 ∧
      Traffic.Around naming (traffic.targets message mode).2
        (traffic'.targets message' mode).2 := by
  obtain ⟨found, further⟩ := around.bus.takeWaiting messages.address
  obtain ⟨audience, moved⟩ := around.bus.audience messages.address mode
  unfold Traffic.targets
  generalize traffic.bus.takeWaiting message.address = taken at found further
  generalize traffic'.bus.takeWaiting message'.address = taken' at found further
  obtain ⟨waiting, rest⟩ := taken
  obtain ⟨waiting', rest'⟩ := taken'
  cases found with
  | some those =>
    exact ⟨.cons ⟨those.handler, those.owned⟩ .nil, { around with bus := further }⟩
  | none =>
    refine ⟨?_, { around with bus := moved }⟩
    exact List.rel_map (fun _ _ consumers => ⟨consumers.handler, .nil⟩) audience

/-- Hooks leave messages alike that were alike, and all else but the recordings as it was. -/
theorem Around.applyHooks (around : Traffic.Around naming traffic traffic') (side : Side)
    {message message' : Message} (messages : Message.Alike naming message message') :
    ∃ after after' recording recording',
      traffic.applyHooks side message = (after, { traffic with recording := recording }) ∧
      traffic'.applyHooks side message' = (after', { traffic' with recording := recording' }) ∧
      Message.Alike naming after after' := by
  obtain ⟨after, recording, hooked, resembles⟩ :=
    applyHooks_captures around.bus.captures side message
  obtain ⟨after', recording', hooked', resembles'⟩ :=
    applyHooks_captures around.bus.captures' side message'
  exact ⟨after, after', recording, recording', hooked, hooked',
    messages.resembling resembles resembles'⟩

/-- Sending messages that are alike begins dispatches that are alike. -/
theorem Around.send (around : Traffic.Around naming traffic traffic') {message message' : Message}
    (messages : Message.Alike naming message message') (mode : Mode) {owned owned' : List Delivery}
    (deliveries : List.Forall₂ (Delivery.Alike naming) owned owned') {next next' : Nat → Program}
    (goesOn : ∀ later, naming.Within later → ∀ count,
      Program.Alike later (next count) (next' count)) :
    Message.Alike naming (traffic.applyHooks .outbound message).1
        (traffic'.applyHooks .outbound message').1 ∧
      Traffic.Alike naming (traffic.send message mode owned next)
        (traffic'.send message' mode owned' next') := by
  obtain ⟨after, after', recording, recording', hooked, hooked', hookedAlike⟩ :=
    around.applyHooks .outbound messages
  rw [Traffic.send, Traffic.send, hooked, hooked']
  refine ⟨hookedAlike, ?_⟩
  have recorded : Traffic.Around naming { traffic with recording := recording }
      { traffic' with recording := recording' } := { around with }
  obtain ⟨targets, further⟩ := recorded.targets hookedAlike mode
  refine ⟨{ further with calls := .cons ?_ further.calls }, .none⟩
  exact {
    message := hookedAlike
    targets := targets
    count := targets.length_eq
    replyAt := messages.reply
    owned := deliveries
    next := goesOn }

/-- Drafts that are alike are sent alike. -/
theorem Around.sending (around : Traffic.Around naming traffic traffic') {draft draft' : Draft}
    (drafts : Draft.Alike naming draft draft') {reply reply' : Option String}
    (replies : Option.Rel (Address.Alike naming) reply reply') (mode : Mode)
    {owned owned' : List Delivery}
    (deliveries : List.Forall₂ (Delivery.Alike naming) owned owned') {next next' : Nat → Program}
    (goesOn : ∀ later, naming.Within later → ∀ count,
      Program.Alike later (next count) (next' count)) :
    Sight.Alike naming (traffic.sending draft reply) (traffic'.sending draft' reply') ∧
      Traffic.Alike naming
        ((traffic.prepare draft reply).2.send (traffic.prepare draft reply).1 mode owned next)
        ((traffic'.prepare draft' reply').2.send (traffic'.prepare draft' reply').1 mode owned'
          next') := by
  obtain ⟨message, recording, prepared, resembles⟩ := traffic.prepare_resembles draft reply
  obtain ⟨message', recording', prepared', resembles'⟩ := traffic'.prepare_resembles draft' reply'
  have drafted : Message.Alike naming ⟨draft.address, reply, .empty, draft.body⟩
      ⟨draft'.address, reply', .empty, draft'.body⟩ :=
    ⟨drafts.address, replies, rfl, drafts.body⟩
  have messages := drafted.resembling resembles resembles'
  have recorded : Traffic.Around naming { traffic with recording := recording }
      { traffic' with recording := recording' } := { around with }
  obtain ⟨hooked, sent⟩ := recorded.send messages mode deliveries goesOn
  rw [Traffic.sending, Traffic.sending, prepared, prepared']
  exact ⟨.sent drafts hooked, sent⟩

/-- Handlers that are alike are given deliveries that are alike. -/
theorem Around.serve (around : Traffic.Around naming traffic traffic') {message message' : Message}
    (messages : Message.Alike naming message message')
    {target target' : Handler × List Delivery} (targets : Target.Alike naming target target') :
    Sight.Alike naming (traffic.handing message target.1) (traffic'.handing message' target'.1) ∧
      Traffic.Alike naming (traffic.serve message target.1 target.2)
        (traffic'.serve message' target'.1 target'.2) := by
  obtain ⟨after, after', recording, recording', hooked, hooked', hookedAlike⟩ :=
    around.applyHooks .inbound messages
  have deliveries : Delivery.Alike naming ⟨traffic.delivered, after⟩ ⟨traffic'.delivered, after'⟩ :=
    ⟨around.delivered, hookedAlike⟩
  rw [Traffic.handing, Traffic.handing, Traffic.serve, Traffic.serve, hooked, hooked',
    targets.handler.name]
  refine ⟨.handed deliveries, ?_⟩
  exact ⟨{ around with delivered := congrArg (· + 1) around.delivered },
    .some ⟨.cons deliveries targets.brought,
      targets.handler.run naming (.refl naming) _ _ deliveries⟩⟩

/-- Dispatches that are alike end alike. -/
theorem Around.conclude (around : Traffic.Around naming traffic traffic') {call call' : Call}
    (calls : Call.Alike naming call call') :
    Traffic.Alike naming (traffic.conclude call) (traffic'.conclude call') := by
  have goesOn := around.proceed calls.owned (calls.next naming (.refl naming) call.count)
  have replies := calls.replyAt
  rw [calls.count] at goesOn
  unfold Traffic.conclude
  generalize call.replyAt = address at replies
  generalize call'.replyAt = address' at replies
  rw [calls.count]
  cases replies with
  | none => exact goesOn
  | some address =>
    dsimp only
    split
    · exact goesOn.andThen (around.bus.release address)
    · exact goesOn

/-- Both buses go on with the innermost dispatch. -/
theorem Around.continues (around : Traffic.Around naming traffic traffic') :
    Option.Rel (Sight.Alike naming) traffic.continuing traffic'.continuing ∧
      Option.Rel (Traffic.Alike naming) traffic.continue? traffic'.continue? := by
  have calls := around.calls
  unfold Traffic.continuing Traffic.continue?
  generalize traffic.calls = these at calls
  generalize traffic'.calls = those at calls
  cases calls with
  | nil => exact ⟨.none, .none⟩
  | @cons call call' outer outer' first rest =>
    have targets := first.targets
    dsimp only
    generalize call.targets = now at targets
    generalize call'.targets = now' at targets
    cases targets with
    | nil =>
      have ended : Traffic.Around naming { traffic with calls := outer }
          { traffic' with calls := outer' } := { around with calls := rest }
      rw [first.count]
      exact ⟨.some (.reached _), .some (ended.conclude first)⟩
    | @cons target target' later later' target remaining =>
      have under : Traffic.Around naming
          { traffic with calls := { call with targets := later } :: outer }
          { traffic' with calls := { call' with targets := later' } :: outer' } :=
        { around with calls := .cons { first with targets := remaining } rest }
      obtain ⟨_, served⟩ := under.serve first.message target
      exact ⟨.some (around.serve first.message target).1, .some served⟩

/-! ## What programs ask for -/

/-- A delivery with a number is separated from the others on both sides. -/
theorem separate_alike {owned owned' : List Delivery}
    (deliveries : List.Forall₂ (Delivery.Alike naming) owned owned') (number : Nat) :
    List.Forall₂ (Delivery.Alike naming) (separate owned number).1 (separate owned' number).1 ∧
      List.Forall₂ (Delivery.Alike naming) (separate owned number).2
        (separate owned' number).2 :=
  partition_alike deliveries fun _ _ same => by rw [same.number]

/-- What is put aside under a name stands for what is there on the other side. -/
theorem lookup_alike {slots slots' : List (String × Delivery)}
    (same : List.Forall₂ (Slot.Alike naming) slots slots') (slot : String) :
    Option.Rel (Delivery.Alike naming) (slots.lookup slot) (slots'.lookup slot) := by
  induction same with
  | nil => exact .none
  | cons first _ ih =>
    rw [List.lookup_cons, List.lookup_cons, first.name]
    split
    · exact .some first.delivery
    · exact ih

/-- Programs end alike, whatever they answer. -/
theorem Around.finish (around : Traffic.Around naming traffic traffic')
    {owned owned' : List Delivery}
    (deliveries : List.Forall₂ (Delivery.Alike naming) owned owned') (answer answer' : Answer) :
    Traffic.Alike naming (traffic.finish owned answer) (traffic'.finish owned' answer') := by
  have ended : Traffic.Alike naming
      { traffic with
        running := none
        answer := if traffic.calls.isEmpty then answer else traffic.answer }
      { traffic' with
        running := none
        answer := if traffic'.calls.isEmpty then answer' else traffic'.answer } :=
    ⟨{ around with }, .none⟩
  exact ended.andThen (around.bus.dropAll deliveries)

/-- A delivery is put aside on both buses, or on neither. -/
theorem Around.hold (around : Traffic.Around naming traffic traffic')
    {owned owned' : List Delivery}
    (deliveries : List.Forall₂ (Delivery.Alike naming) owned owned') (slot : String) (number : Nat)
    {next next' : Program} (goesOn : Program.Alike naming next next') :
    Traffic.Alike naming (traffic.advance owned (.hold slot number next))
      (traffic'.advance owned' (.hold slot number next')) := by
  obtain ⟨held, kept⟩ := separate_alike deliveries number
  have named ⦃a b⦄ (same : Slot.Alike naming a b) : (a.1 == slot) = (b.1 == slot) := by
    rw [same.name]
  have former := filter_alike around.slots named
  have others : List.Forall₂ (Slot.Alike naming)
      (traffic.slots.filter fun entry => entry.1 != slot)
      (traffic'.slots.filter fun entry => entry.1 != slot) :=
    filter_alike around.slots fun _ _ same => by rw [bne, bne, named same]
  simp only [advance]
  generalize (separate owned number).1 = found at held
  generalize (separate owned' number).1 = found' at held
  cases held with
  | nil => exact around.proceed kept goesOn
  | @cons delivery delivery' _ _ first _ =>
    have put : Traffic.Around naming
        { traffic with
          slots := (traffic.slots.filter fun entry => entry.1 != slot) ++ [(slot, delivery)] }
        { traffic' with
          slots := (traffic'.slots.filter fun entry => entry.1 != slot) ++ [(slot, delivery')] } :=
      { around with slots := List.rel_append others (.cons ⟨rfl, first⟩ .nil) }
    refine (put.proceed kept goesOn).andThen (around.bus.dropAll ?_)
    exact List.rel_map (fun _ _ same => same.delivery) former

/-- What was put aside is taken up alike. -/
theorem Around.take (around : Traffic.Around naming traffic traffic')
    {owned owned' : List Delivery}
    (deliveries : List.Forall₂ (Delivery.Alike naming) owned owned') (slot : String)
    {next next' : Option Delivery → Program}
    (goesOn : ∀ found found', Option.Rel (Delivery.Alike naming) found found' →
      Program.Alike naming (next found) (next' found')) :
    Traffic.Alike naming (traffic.advance owned (.take slot next))
      (traffic'.advance owned' (.take slot next')) := by
  have others : Traffic.Around naming
      { traffic with slots := traffic.slots.filter fun entry => entry.1 != slot }
      { traffic' with slots := traffic'.slots.filter fun entry => entry.1 != slot } :=
    { around with slots := filter_alike around.slots fun _ _ same => by rw [same.name] }
  have found := lookup_alike around.slots slot
  simp only [Traffic.advance]
  generalize traffic.slots.lookup slot = delivery at found
  generalize traffic'.slots.lookup slot = delivery' at found
  refine others.proceed (List.rel_append ?_ deliveries) (goesOn _ _ found)
  cases found with
  | none => exact .nil
  | some delivery => exact .cons delivery .nil

/-- Programs that are alike do the next thing alike, and what they show of it is alike. -/
theorem Around.advance (around : Traffic.Around naming traffic traffic')
    {owned owned' : List Delivery}
    (deliveries : List.Forall₂ (Delivery.Alike naming) owned owned') {program program' : Program}
    (programs : Program.Alike naming program program') :
    ∃ later, naming.Within later ∧
      Option.Rel (Sight.Alike later) (traffic.asking owned program)
        (traffic'.asking owned' program') ∧
      Traffic.Alike later (traffic.advance owned program) (traffic'.advance owned' program') := by
  have grows := naming.within_add traffic.bus.next traffic'.bus.next
  cases programs with
  | finish answer answer' =>
    exact ⟨naming, .refl naming, .none, around.finish deliveries answer answer'⟩
  | @consume _ _ _ name handler handler' _ _ place handles goesOn =>
    have handlers : Handler.Alike naming ⟨name, handler⟩ ⟨name, handler'⟩ := ⟨rfl, handles⟩
    have enlisted := around.grow grows (around.bus.consume place handlers)
    refine ⟨_, grows, .some (.enlisted (naming.add_new _ _)), ?_⟩
    refine enlisted.proceed (deliveries.imp fun _ _ => .grow grows) ?_
    exact goesOn _ grows _ _ (naming.add_new _ _)
  | @retire _ id id' _ _ paired goesOn =>
    have found := around.bus.hasConsumer paired
    refine ⟨naming, .refl naming, ?_, ?_⟩
    · rw [asking, asking, found]
      exact .some (.retired _)
    · have retired : Traffic.Around naming { traffic with bus := (traffic.bus.retire id).2 }
          { traffic' with bus := (traffic'.bus.retire id').2 } :=
        { around with bus := around.bus.retire paired }
      refine retired.proceed deliveries ?_
      have same := goesOn (traffic.bus.hasConsumer id)
      nth_rewrite 2 [found] at same
      exact same
  | @dispatch _ _ _ mode _ _ drafts goesOn =>
    obtain ⟨shown, sent⟩ := around.sending drafts .none mode deliveries goesOn
    exact ⟨naming, .refl naming, .some shown, sent⟩
  | @request _ draft draft' name onReply onReply' given _ _ drafts handles goesOn =>
    have passed ⦃a b : Delivery⦄ (same : Delivery.Alike naming a b) :
        given.contains a.number = given.contains b.number := by
      rw [same.number]
    obtain ⟨moved, kept⟩ := partition_alike deliveries passed
    have handlers : Handler.Alike naming ⟨name, onReply⟩ ⟨name, onReply'⟩ := ⟨rfl, handles⟩
    -- The handlers wait at new addresses, so the renaming grows before the messages leave.
    have waits := around.grow grows (around.bus.await handlers moved)
    obtain ⟨shown, sent⟩ := waits.sending (drafts.grow grows)
      (.some (.reply (naming.add_new _ _))) .toOne (kept.imp fun _ _ => .grow grows)
      fun last further => goesOn last (grows.trans further)
    exact ⟨_, grows, .some shown, sent⟩
  | hold goesOn => exact ⟨naming, .refl naming, .none, around.hold deliveries _ _ goesOn⟩
  | take goesOn => exact ⟨naming, .refl naming, .none, around.take deliveries _ goesOn⟩
  | peek goesOn =>
    refine ⟨naming, .refl naming, .none, around.proceed deliveries ?_⟩
    exact goesOn _ _ (lookup_alike around.slots _)
  | @drop _ number _ _ goesOn =>
    obtain ⟨dropped, kept⟩ := separate_alike deliveries number
    refine ⟨naming, .refl naming, .none, ?_⟩
    exact (around.proceed kept goesOn).andThen (around.bus.dropAll dropped)
  | pending goesOn =>
    refine ⟨naming, .refl naming, ?_, ?_⟩
    · rw [asking, asking, around.bus.pending]
      exact .some (.pending _)
    · rw [Traffic.advance, Traffic.advance, around.bus.pending]
      exact around.proceed deliveries (goesOn _)
  | note goesOn =>
    exact ⟨naming, .refl naming, .none, { around with }, .some ⟨deliveries, goesOn⟩⟩
  | «recall» goesOn =>
    exact ⟨naming, .refl naming, .none, around.proceed deliveries (goesOn _ _)⟩
  | mention goesOn =>
    exact ⟨naming, .refl naming, .none, { around with }, .some ⟨deliveries, goesOn⟩⟩
  | mark goesOn =>
    refine ⟨naming, .refl naming, .none,
      { around with marks := congrArg (· + 1) around.marks }, .some ⟨deliveries, ?_⟩⟩
    rw [around.marks]
    exact goesOn _
  | tally goesOn =>
    refine ⟨naming, .refl naming, .none,
      { around with tallies := congrArg (_ :: ·) around.tallies }, .some ⟨deliveries, ?_⟩⟩
    rw [around.tallies]
    exact goesOn _

/-! ## Steps and courses -/

/-- Buses that are alike take their next step alike. -/
theorem Alike.step (alike : Traffic.Alike naming traffic traffic') :
    ∃ later, naming.Within later ∧
      Option.Rel (Sight.Alike later) traffic.sight? traffic'.sight? ∧
      Option.Rel (Traffic.Alike later) traffic.step traffic'.step := by
  have around := alike.around
  have running := alike.running
  by_cases stuck : traffic.stuck = true
  · have stuck' : traffic'.stuck = true := around.stuck ▸ stuck
    rw [sight?, sight?, Traffic.step, Traffic.step, if_pos stuck, if_pos stuck', if_pos stuck,
      if_pos stuck']
    exact ⟨naming, .refl naming, .none, .none⟩
  · have stuck' : ¬ traffic'.stuck = true := around.stuck ▸ stuck
    -- A program runs on both buses or on neither.
    cases here : traffic.running with
    | none =>
      cases there : traffic'.running with
      | some => rw [here, there] at running; cases running
      | none =>
        obtain ⟨shown, continued⟩ := around.continues
        rw [sight?, sight?, Traffic.step, Traffic.step, if_neg stuck, if_neg stuck', if_neg stuck,
          if_neg stuck', here, there]
        exact ⟨naming, .refl naming, shown, continued⟩
    | some program =>
      cases there : traffic'.running with
      | none => rw [here, there] at running; cases running
      | some program' =>
        rw [here, there] at running
        cases running with
        | some programs =>
          obtain ⟨later, grows, shown, advanced⟩ :=
            around.advance programs.owned programs.program
          rw [sight?, sight?, Traffic.step, Traffic.step, if_neg stuck, if_neg stuck', if_neg stuck,
            if_neg stuck', here, there]
          exact ⟨later, grows, shown, .some advanced⟩

end Traffic

/-! ## Others -/

/-- A bus on which only hooks that capture messages have come or gone. -/
structure Bus.Rehooked (bus after : Bus) : Prop where
  consumers : after.consumers = bus.consumers
  waiting : after.waiting = bus.waiting
  turn : after.turn = bus.turn
  next : bus.next ≤ after.next
  captures : bus.OnlyCaptures → after.OnlyCaptures

namespace Bus

/-- A bus is rehooked while nothing happens. -/
theorem Rehooked.refl (bus : Bus) : bus.Rehooked bus := ⟨rfl, rfl, rfl, Nat.le_refl _, id⟩

/-- Hooks may come and go any number of times. -/
theorem Rehooked.trans {bus after last : Bus} (first : bus.Rehooked after)
    (second : after.Rehooked last) : bus.Rehooked last :=
  ⟨second.consumers.trans first.consumers, second.waiting.trans first.waiting,
    second.turn.trans first.turn, Nat.le_trans first.next second.next,
    fun captures => second.captures (first.captures captures)⟩

/-- A capture hook that is placed changes nothing but hooks and the next number. -/
theorem rehooked_place (bus : Bus) (side : Side) (place : Nat) (direction : Direction) :
    bus.Rehooked (bus.place side (.capture place direction)).2 := by
  have captures (before : bus.OnlyCaptures) :
      (bus.place side (.capture place direction)).2.OnlyCaptures := by
    intro other hook among
    rw [hooks_place] at among
    split at among
    · rw [List.map_append, List.mem_append] at among
      rcases among with among | among
      · exact before other hook among
      · exact ⟨place, direction, List.mem_singleton.1 among⟩
    · exact before other hook among
  cases side <;> exact ⟨rfl, rfl, rfl, Nat.le_succ _, captures⟩

/-- A hook that is removed changes nothing but hooks. -/
theorem rehooked_remove (bus : Bus) (id : Nat) : bus.Rehooked (bus.remove id).2 := by
  refine ⟨rfl, rfl, rfl, Nat.le_refl _, fun captures side hook among => captures side hook ?_⟩
  cases side <;> exact List.map_subset _ (List.filter_subset_self _) among

end Bus

namespace HookPair

/-- A pair of hooks that is placed changes nothing but hooks and the next number. -/
theorem rehooked_place (pair : HookPair) (bus : Bus) : bus.Rehooked (pair.place bus).2 := by
  unfold place
  split
  next => exact .refl bus
  next =>
    have outbound := bus.rehooked_place .outbound pair.recorder .sent
    exact outbound.trans (Bus.rehooked_place _ .inbound pair.recorder .received)

/-- A pair of hooks that is removed changes nothing but hooks. -/
theorem rehooked_remove (pair : HookPair) (bus : Bus) : bus.Rehooked (pair.remove bus).2 := by
  unfold remove
  split
  next => exact .refl bus
  next outbound inbound _ =>
    exact (bus.rehooked_remove outbound).trans (Bus.rehooked_remove _ inbound)

end HookPair

/-- Hooks make no difference to what a bus finds in its register. -/
theorem Bus.Alike.rehooked {naming : Renaming} {bus bus' after after' : Bus}
    (alike : Bus.Alike naming bus bus') (changed : bus.Rehooked after)
    (changed' : bus'.Rehooked after') : Bus.Alike naming after after' where
  consumers := by rw [changed.consumers, changed'.consumers]; exact alike.consumers
  waiting := by rw [changed.waiting, changed'.waiting]; exact alike.waiting
  turn := by rw [changed.turn, changed'.turn]; exact alike.turn
  oneToOne := alike.oneToOne
  given n n' paired :=
    ⟨Nat.lt_of_lt_of_le (alike.given n n' paired).1 changed.next,
      Nat.lt_of_lt_of_le (alike.given n n' paired).2 changed'.next⟩
  captures := changed.captures alike.captures
  captures' := changed'.captures alike.captures'

namespace Traffic

/-- All that others do is to a recording and to hooks. -/
theorem Attends.eq_of_rehooked {before after : Traffic} (attends : Attends before after) :
    ∃ bus recording, after = { before with bus := bus, recording := recording } ∧
      before.bus.Rehooked bus := by
  cases attends with
  | elapses elapsed =>
    cases elapsed with
    | recording after => exact ⟨_, _, rfl, .refl _⟩
  | place pair => exact ⟨_, _, rfl, pair.rehooked_place before.bus⟩
  | remove pair => exact ⟨_, _, rfl, pair.rehooked_remove before.bus⟩

variable {naming : Renaming} {traffic traffic' after after' : Traffic}

/-- Traffic stays alike while pipelines come and go on either bus. -/
theorem Alike.attended (alike : Traffic.Alike naming traffic traffic')
    (attends : Relation.ReflTransGen Attends traffic after)
    (attends' : Relation.ReflTransGen Attends traffic' after') :
    Traffic.Alike naming after after' := by
  have left : Traffic.Alike naming after traffic' := by
    induction attends with
    | refl => exact alike
    | tail _ done ih =>
      obtain ⟨bus, recording, rfl, changed⟩ := done.eq_of_rehooked
      exact ⟨{ ih.around with bus := ih.around.bus.rehooked changed (.refl _) }, ih.running⟩
  induction attends' with
  | refl => exact left
  | tail _ done ih =>
    obtain ⟨bus, recording, rfl, changed⟩ := done.eq_of_rehooked
    exact ⟨{ ih.around with bus := ih.around.bus.rehooked (.refl _) changed }, ih.running⟩

/-- Courses of buses that are alike show the same after as many steps, whatever others do. -/
theorem Alike.course {first : Renaming} {start start' : Traffic}
    (alike : Traffic.Alike first start start') {fit fit' : Traffic → Prop} {count : Nat}
    {seen seen' : List Sight} (course : Course Attends fit start count seen traffic)
    (course' : Course Attends fit' start' count seen' traffic') :
    ∃ naming, first.Within naming ∧ List.Forall₂ (Sight.Alike naming) seen seen' ∧
      Traffic.Alike naming traffic traffic' := by
  induction count generalizing seen seen' traffic traffic' with
  | zero =>
    obtain ⟨rfl, since⟩ := course.of_zero
    obtain ⟨rfl, since'⟩ := course'.of_zero
    exact ⟨first, .refl first, .nil, alike.attended since since'⟩
  | succ count ih =>
    obtain ⟨prior, before, after, earlier, -, stepped, rfl, since⟩ := course.last
    obtain ⟨prior', before', after', earlier', -, stepped', rfl, since'⟩ := course'.last
    obtain ⟨naming, grows, shown, still⟩ := ih earlier earlier'
    obtain ⟨later, further, showing, steps⟩ := still.step
    rw [stepped, stepped'] at steps
    refine ⟨later, grows.trans further, List.rel_append ?_ ?_, ?_⟩
    · exact shown.imp fun _ _ => .grow further
    · generalize before.sight? = sight at showing
      generalize before'.sight? = sight' at showing
      cases showing with
      | none => exact .nil
      | some sights => exact .cons sights .nil
    · cases steps with
      | some afterwards => exact afterwards.attended since since'

/-- Buses with nobody on them are alike, whatever there is to record. -/
theorem Alike.of_indifferent {program : Program} (indifferent : program.Indifferent)
    (recording recording' : Recording) :
    Traffic.Alike .empty ((Traffic.new recording).start program)
      ((Traffic.new recording').start program) where
  around := {
    bus := {
      consumers := .nil
      waiting := .nil
      turn := rfl
      oneToOne := ⟨fun _ _ _ paired => paired.elim, fun _ _ _ paired => paired.elim⟩
      given := fun _ _ paired => paired.elim
      captures := fun side hook among => by cases side <;> cases among
      captures' := fun side hook among => by cases side <;> cases among }
    slots := .nil
    calls := .nil
    delivered := rfl
    marks := rfl
    tallies := rfl
    stuck := rfl }
  running := .some ⟨.nil, indifferent⟩

/-- An indifferent program runs on a bus that pairs of hooks are placed on and removed from as it
runs, and on another that nobody ever places a hook on.  After as many steps the same was seen of
both, but for numbers that stand for each other: the same handlers were given the same deliveries,
and programs learned the same.  Either both go on or both have come to their end, and either both
are stuck or none is. -/
theorem traced_alike_untraced {program : Program} (indifferent : program.Indifferent)
    {recording recording' : Recording} {count : Nat} {seen seen' : List Sight}
    {untraced traced : Traffic}
    (course : Course Elapses (fun _ => True) ((Traffic.new recording).start program) count seen
      untraced)
    (course' : Course Attends (fun _ => True) ((Traffic.new recording').start program) count seen'
      traced) :
    ∃ naming : Renaming, Relator.BiUnique naming ∧ List.Forall₂ (Sight.Alike naming) seen seen' ∧
      untraced.step.isSome = traced.step.isSome ∧ untraced.stuck = traced.stuck := by
  obtain ⟨naming, -, shown, alike⟩ :=
    (Alike.of_indifferent indifferent recording recording').course
      (course.of_others fun _ _ => .elapses) course'
  obtain ⟨_, -, -, steps⟩ := alike.step
  refine ⟨naming, alike.around.bus.oneToOne, shown, ?_, alike.around.stuck⟩
  generalize untraced.step = after at steps
  generalize traced.step = after' at steps
  cases steps <;> rfl

/-- A consumer that replies is asked once and then removed. -/
def askAndRetire : Program :=
  .consume "ping" "ponger"
    (fun delivery => Script.follow "ponger" 0 0 [.reply (.text "pong")] (some delivery)
      Script.ended)
    fun id => .request ⟨"ping", .text "hello", none⟩ "asker" (fun _ => .finish .done) []
      fun _ => .retire id fun found => .finish (.flag found)

/-- The program looks at no identity. -/
theorem indifferent_askAndRetire : askAndRetire.Indifferent := by
  refine .consume (.named (by decide)) ?_ fun later _ id id' paired =>
    .request ⟨.named (by decide), rfl⟩ (fun _ _ _ _ _ => .finish _ _) fun last further _ =>
      .retire (further paired) fun _ => .finish _ _
  intro later _ given given' same
  exact Script.follow_alike "ponger" 0 0 _ rfl (.some same) Script.ended_alike

/-- Asked through a bus without hooks, and through one with a pair for a channel that has
room for one event. -/
theorem traced_alike_untraced_askAndRetire :
    let recording := Recording.new (.counting 0) 0
    let recording' := (recording.add (.new 1 .dropNewest)).2
    ∃ seen seen' untraced traced naming,
      Course Elapses (fun _ => True) ((Traffic.new recording).start askAndRetire) 12 seen untraced ∧
      Course Attends (fun _ => True) ((Traffic.new recording').start askAndRetire) 12 seen'
        traced ∧
      seen.length = 8 ∧ Relator.BiUnique naming ∧ List.Forall₂ (Sight.Alike naming) seen seen' ∧
      untraced.step.isSome = traced.step.isSome ∧ untraced.stuck = traced.stuck := by
  intro recording recording'
  have course := course_run Elapses (fun _ => True) 12
    ((Traffic.new recording).start askAndRetire) fun _ _ => trivial
  have taken : steps 12 ((Traffic.new recording).start askAndRetire) = 12 := by decide +kernel
  have number : (sights 12 ((Traffic.new recording).start askAndRetire)).length = 8 := by
    decide +kernel
  have placed : Course Attends (fun _ => True) ((Traffic.new recording').start askAndRetire) 0 []
      (((Traffic.new recording').start askAndRetire).placeHooks (.new 0)).2 :=
    .meanwhile .here (.place (.new 0))
  have course' := course_run Attends (fun _ => True) 12
    (((Traffic.new recording').start askAndRetire).placeHooks (.new 0)).2 fun _ _ => trivial
  have taken' : steps 12 (((Traffic.new recording').start askAndRetire).placeHooks (.new 0)).2
      = 12 := by decide +kernel
  rw [taken] at course
  rw [taken'] at course'
  obtain ⟨naming, oneToOne, shown, goesOn, stuck⟩ :=
    traced_alike_untraced indifferent_askAndRetire course (placed.trans course')
  exact ⟨_, _, _, _, naming, course, placed.trans course', number, oneToOne, shown, goesOn, stuck⟩

end Traffic

end CausalTrace
