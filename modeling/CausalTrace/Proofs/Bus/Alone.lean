import CausalTrace.Proofs.Bus.Threads

/-!
# A thread that is alone

While nobody else gets a turn, the sections of a thread are the steps of `Traffic`: the hooks of a
side follow each other, and each push returns before its hook lets the message go on.  So a course
of a bus whose hooks are those of one pipeline is one of the ways in which a crowd of one thread can
go, in which hooks push what they offer.  What the recorder of the bus makes of it is not compared;
in the crowd a session stands in its place.
-/

namespace CausalTrace

namespace Channel

/-- A push whose time is up is decided. -/
theorem resume_true {α : Type} (channel : Channel α) (item : α) :
    (channel.resume item true).2 ≠ .waiting := by
  unfold resume
  split
  · nofun
  · rw [if_pos rfl]
    split <;> nofun

end Channel

/-- The item of a push. -/
def Channel.Call.pushed? {α : Type} : Channel.Call α → Option α
  | push item _ => some item
  | _ => none

namespace Sight

/-- The message that a handler is given. -/
def delivered? : Sight → Option Message
  | handed _ delivery _ => some delivery.message
  | _ => none

/-- The messages that were handed over. -/
def deliveries (seen : List Sight) : List Message := seen.filterMap delivered?

/-- The events that hooks have offered. -/
def events (seen : List Sight) : List Event := (seen.flatMap offers).filterMap Prod.snd

/-- The deliveries of a longer course are those of its parts. -/
theorem deliveries_append (seen more : List Sight) :
    deliveries (seen ++ more) = deliveries seen ++ deliveries more :=
  List.filterMap_append

/-- The events of a longer course are those of its parts. -/
theorem events_append (seen more : List Sight) :
    events (seen ++ more) = events seen ++ events more := by
  rw [events, List.flatMap_append, List.filterMap_append]
  rfl

end Sight

/-- Messages other than roots are sent only through deliveries that were seen before. -/
def Sight.Descend (seen : List Sight) : Prop :=
  ∀ earlier draft message offers, earlier ++ [.sent draft message offers] <+: seen →
    draft.Descends (deliveries earlier)

namespace Traffic

/-! ## What threads share -/

/-- The same bus with something else under way and with other recorders. -/
def besides (traffic : Traffic) (running : Option Running) (calls : List Call)
    (recorders : List Recorder) (tree : FileTree) : Traffic :=
  { traffic with
    running := running
    calls := calls
    recording := { traffic.recording with recorders := recorders, tree := tree } }

section Besides

variable (traffic : Traffic) (running : Option Running) (calls : List Call)
  (recorders : List Recorder) (tree : FileTree)

/-- A draft is prepared in the same way whatever else is under way. -/
theorem prepare_besides (draft : Draft) (reply : Option String) :
    (traffic.besides running calls recorders tree).prepare draft reply =
      ((traffic.prepare draft reply).1,
        (traffic.prepare draft reply).2.besides running calls recorders tree) := by
  unfold prepare
  cases draft.lineage <;> rfl

/-- Whom a message goes to does not depend on what else is under way. -/
theorem targets_besides (message : Message) (mode : Mode) :
    (traffic.besides running calls recorders tree).targets message mode =
      ((traffic.targets message mode).1,
        (traffic.targets message mode).2.besides running calls recorders tree) := by
  have same : (traffic.besides running calls recorders tree).bus = traffic.bus := rfl
  unfold targets
  rw [same]
  split <;> rfl

/-- The end of a dispatch does the same to the bus whatever else is under way. -/
theorem conclude_besides (call : Call) :
    (traffic.besides running traffic.calls recorders tree).conclude call =
      (traffic.conclude call).besides (traffic.conclude call).running (traffic.conclude call).calls
        recorders tree := by
  have same : (traffic.besides running traffic.calls recorders tree).bus = traffic.bus := rfl
  simp only [conclude, same]
  split
  next address _ =>
    split
    · cases traffic.bus.release address <;> rfl
    · rfl
  next => rfl

/-- Hooks that capture do not look at what is under way. -/
theorem hooks_withCalls (direction : Direction) (places : List Nat) (message : Message) :
    let hooks := places.map (Hook.capture · direction)
    offers hooks (message, { traffic with calls := calls }) = offers hooks (message, traffic) ∧
      (hooks.foldl applyHook (message, { traffic with calls := calls })).1
        = (hooks.foldl applyHook (message, traffic)).1 := by
  induction places generalizing traffic message with
  | nil => exact ⟨rfl, rfl⟩
  | cons place rest ih =>
    obtain ⟨seen, left⟩ :=
      ih (applyHook (message, traffic) (.capture place direction)).2
        (applyHook (message, traffic) (.capture place direction)).1
    exact ⟨congrArg (List.cons _) seen, left⟩

/-- An id may be given out for a draft; dispatches, recorders and the bus stay. -/
theorem prepare_keeps (draft : Draft) (reply : Option String) :
    (traffic.prepare draft reply).2.calls = traffic.calls ∧
      (traffic.prepare draft reply).2.recording.recorders = traffic.recording.recorders ∧
      (traffic.prepare draft reply).2.bus = traffic.bus := by
  unfold prepare
  cases draft.lineage <;> exact ⟨rfl, rfl, rfl⟩

/-- A program that does not send shows neither a message nor a delivery. -/
theorem asking_aside (owned : List Delivery) {program : Program} (aside : program.sends = false) :
    Sight.deliveries (traffic.asking owned program).toList = [] ∧
      Sight.events (traffic.asking owned program).toList = [] := by
  cases program with
  | dispatch | request => cases aside
  | _ => exact ⟨rfl, rfl⟩

/-- A program that does not send meets nothing but what threads share. -/
theorem advance_besides (owned : List Delivery) {program : Program}
    (aside : program.sends = false) :
    (traffic.besides running traffic.calls recorders tree).advance owned program =
      (traffic.advance owned program).besides (traffic.advance owned program).running
        (traffic.advance owned program).calls recorders tree := by
  have same : (traffic.besides running traffic.calls recorders tree).bus = traffic.bus := rfl
  have slots : (traffic.besides running traffic.calls recorders tree).slots = traffic.slots := rfl
  cases program with
  | dispatch | request => cases aside
  | finish answer =>
    simp only [advance, finish, same]
    cases traffic.bus.dropAll owned <;> rfl
  | hold slot number next =>
    simp only [advance, same, slots]
    split
    · rfl
    · generalize traffic.bus.dropAll _ = rest
      cases rest <;> rfl
  | drop number next =>
    simp only [advance, same]
    cases traffic.bus.dropAll (separate owned number).1 <;> rfl
  | _ => rfl

end Besides

end Traffic

namespace Crowd

variable {σ : Type} [Store σ] {recorder : Nat} {crowd first : Crowd σ}

/-- The events that hooks have begun to push. -/
def pushed (crowd : Crowd σ) : List Event :=
  crowd.session.line.calls.filterMap Channel.Call.pushed?

/-! ## A push that nobody disturbs -/

section Pushes

open Channel (Calls)

variable {earlier : List (Channel.Call Event)} {event : Event}

/-- The last call of a channel is exchanged at the end of the list. -/
theorem set_last {old new : Channel.Call Event} :
    (earlier ++ [old]).set earlier.length new = earlier ++ [new] := by
  simp

/-- A push that is decided returns when it has been counted. -/
theorem Leads.settles {line : Calls Event} {stage : Channel.PushStage}
    (calls : line.calls = earlier ++ [.push event stage])
    {result : Channel Event × Channel.PushPhase} (decided : result.2 ≠ .waiting)
    (leads : Leads recorder first { crowd with
      session := crowd.session.onLine (line.pushed earlier.length event result) }) :
    ∃ line stage, Leads recorder first { crowd with session := crowd.session.onLine line } ∧
      line.calls = earlier ++ [.push event stage] ∧
      (Channel.Call.push event stage).isDone = true := by
  obtain ⟨channel, phase⟩ := result
  have turned (new : Channel.Call Event) :
      line.calls.set earlier.length new = earlier ++ [new] := by rw [calls, set_last]
  cases phase with
  | waiting => exact absurd rfl decided
  | refused reason => exact ⟨_, .refused reason, leads, turned _, rfl⟩
  | accepted =>
    have here : (line.calls.set earlier.length (.push event .counting))[earlier.length]?
        = some (.push event .counting) := by
      rw [turned, List.getElem?_concat_length]
    refine ⟨_, .accepted, leads.step (.pushes earlier.length here (.countPushed here)), ?_, rfl⟩
    show (line.calls.set _ _).set _ _ = _
    rw [List.set_set, turned]

/-- The push that was begun last can return, as its time can run out. -/
theorem exists_returned (recorder : Nat)
    (last : crowd.session.line.calls = earlier ++ [.push event .entering]) :
    ∃ line stage, Leads recorder crowd { crowd with session := crowd.session.onLine line } ∧
      line.calls = earlier ++ [.push event stage] ∧
      (Channel.Call.push event stage).isDone = true := by
  have here : crowd.session.line.calls[earlier.length]? = some (.push event .entering) := by
    rw [last, List.getElem?_concat_length]
  have entered := (Leads.here : Leads recorder crowd _).step
    (.pushes earlier.length here (.enter here))
  rcases found : crowd.session.line.channel.enter event with ⟨channel, phase⟩
  rw [found] at entered
  by_cases waits : phase = .waiting
  · subst waits
    have waiting : crowd.session.line.calls.set earlier.length (.push event .waiting)
        = earlier ++ [.push event .waiting] := by rw [last, set_last]
    have there : (crowd.session.line.calls.set earlier.length
        (.push event .waiting))[earlier.length]? = some (.push event .waiting) := by
      rw [waiting, List.getElem?_concat_length]
    have resumed := entered.step (.pushes earlier.length there (.resume true there))
    exact resumed.settles waiting (channel.resume_true event)
  · exact entered.settles last waits

end Pushes

/-! ## Hooks that nobody disturbs -/

section Hooks

variable {running : Option Running} {calls outer : List Call} {recorders : List Recorder}
  {tree : FileTree}

/-- What a hook makes of a message and of traffic, beside what happens to recorders. -/
theorem applyHook_recorded {traffic : Traffic} (direction : Direction) (message : Message)
    (recorded : recorder < traffic.recording.recorders.length) :
    let sighting := direction.sight message.headers traffic.recording.ids
    let hook := Hook.capture recorder direction
    hook.offer? traffic.recording message
        = some (sighting.event message direction traffic.recording.clock) ∧
      ∃ recorders tree, recorders.length = traffic.recording.recorders.length ∧
        Traffic.applyHook (message, traffic) hook = (sighting.message message,
          { traffic with recording :=
            ⟨recorders, tree, sighting.ids, traffic.recording.clock⟩ }) := by
  have found := List.getElem?_eq_getElem recorded
  simp only [Hook.offer?, Recording.offer?, Traffic.applyHook, Recording.capture, found,
    Option.map_some]
  exact ⟨rfl, _, _, List.length_set, rfl⟩

/-- A crowd of one thread gets to another, and hooks begin to push some events on the way. -/
structure Gets (recorder : Nat) (crowd later : Crowd σ) (thread : Thread) (shared : Traffic)
    (events : List Event) : Prop where
  leads : Leads recorder crowd later
  only : later.threads = [thread]
  shared : later.shared = shared
  handed : later.handed = crowd.handed
  pushed : later.pushed = crowd.pushed ++ events

/-- A hook sees a message, and its push returns. -/
theorem exists_hooked {count : Nat} {traffic : Traffic} {message : Message} {errand : Errand}
    (only : crowd.threads = [⟨.passing message errand (.left (count + 1)), outer⟩])
    (shared : crowd.shared = traffic.besides running calls recorders tree)
    (recorded : recorder < traffic.recording.recorders.length) :
    let hook := Hook.capture recorder (Traffic.Side.captured errand.side)
    let after := Traffic.applyHook (message, traffic) hook
    after.2.recording.recorders.length = traffic.recording.recorders.length ∧
      ∃ later, Gets recorder crowd later ⟨.passing after.1 errand (.left count), outer⟩
        (after.2.besides running calls recorders tree)
        (hook.offer? traffic.recording message).toList := by
  let direction := Traffic.Side.captured errand.side
  let sighting := direction.sight message.headers traffic.recording.ids
  let event := sighting.event message direction traffic.recording.clock
  obtain ⟨offered, others, files, length, applied⟩ := applyHook_recorded direction message recorded
  obtain ⟨_, session, _, handed⟩ := crowd
  subst only shared
  let before : Crowd σ := ⟨traffic.besides running calls recorders tree, session,
    [⟨.passing message errand (.left (count + 1)), outer⟩], handed⟩
  -- One hook is four kinds of sections: it looks and begins its push, the push goes on, and the
  -- thread returns.
  let seen := sighting.message message
  let looked : Crowd σ := (before.captured sighting event).exchange 0
    ⟨.passing seen errand (.pushing session.line.calls.length count), outer⟩
  have captured : Leads recorder before looked :=
    Leads.here.step (.moves 0 rfl (.captures rfl rfl))
  have last : looked.session.line.calls = session.line.calls ++ [.push event .entering] := rfl
  obtain ⟨line, stage, pushes, placed, done⟩ := exists_returned recorder last
  have here : line.calls[session.line.calls.length]? = some (.push event stage) := by
    rw [placed, List.getElem?_concat_length]
  have returned := (captured.trans pushes).step (.moves 0 rfl (.returns rfl here done))
  intro hook after
  have turned : after = (seen, { traffic with
    recording := ⟨others, files, sighting.ids, traffic.recording.clock⟩ }) := applied
  have shown : hook.offer? traffic.recording message = some event := offered
  rw [turned, shown]
  refine ⟨length, _, returned, rfl, rfl, rfl, ?_⟩
  show line.calls.filterMap _ = session.line.calls.filterMap _ ++ _
  rw [placed, List.filterMap_append]
  rfl

/-- A message gets past the hooks of a side. -/
theorem exists_passed (count : Nat) {crowd : Crowd σ} {traffic : Traffic} {message : Message}
    {errand : Errand}
    (only : crowd.threads = [⟨.passing message errand (.left count), outer⟩])
    (shared : crowd.shared = traffic.besides running calls recorders tree)
    (recorded : ∀ place ∈ List.replicate count recorder,
      place < traffic.recording.recorders.length) :
    let hooks := (List.replicate count recorder).map
      (Hook.capture · (Traffic.Side.captured errand.side))
    let after := hooks.foldl Traffic.applyHook (message, traffic)
    ∃ later, Gets recorder crowd later ⟨.passing after.1 errand (.left 0), outer⟩
      (after.2.besides running calls recorders tree)
      ((Traffic.offers hooks (message, traffic)).filterMap Prod.snd) := by
  induction count generalizing crowd traffic message with
  | zero => exact ⟨crowd, .here, only, shared, rfl, (List.append_nil _).symm⟩
  | succ count ih =>
    obtain ⟨length, hooked, gets⟩ := exists_hooked only shared (recorded recorder (.head _))
    obtain ⟨later, passes⟩ := ih gets.only gets.shared fun place among =>
      length ▸ recorded place (.tail _ among)
    refine ⟨later, gets.leads.trans passes.leads, passes.only, passes.shared,
      passes.handed.trans gets.handed, ?_⟩
    rw [passes.pushed, gets.pushed, List.append_assoc]
    refine congrArg (crowd.pushed ++ ·) ?_
    rw [List.replicate_succ, List.map_cons, Traffic.offers, List.filterMap_cons]
    cases (Hook.capture recorder _).offer? traffic.recording message <;> rfl

/-- The same from the moment when the hooks are looked up. -/
theorem exists_seen {count : Nat} {traffic : Traffic} {message : Message} {errand : Errand}
    (only : crowd.threads = [⟨.passing message errand .entering, outer⟩])
    (shared : crowd.shared = traffic.besides running calls recorders tree)
    (hooks : traffic.hooksOn errand.side = (List.replicate count recorder).map
      (Hook.capture · (Traffic.Side.captured errand.side)))
    (recorded : ∀ place ∈ List.replicate count recorder,
      place < traffic.recording.recorders.length) :
    let after := traffic.applyHooks errand.side message
    ∃ later, Gets recorder crowd later ⟨.passing after.1 errand (.left 0), outer⟩
      (after.2.besides running calls recorders tree)
      ((Traffic.offers (traffic.hooksOn errand.side) (message, traffic)).filterMap Prod.snd) := by
  obtain ⟨_, session, _, handed⟩ := crowd
  subst only shared
  let before : Crowd σ := ⟨traffic.besides running calls recorders tree, session,
    [⟨.passing message errand .entering, outer⟩], handed⟩
  let gone : Crowd σ := before.exchange 0 ⟨.passing message errand (.left count), outer⟩
  have looked : Leads recorder before gone :=
    Leads.here.step (.moves 0 rfl (.looks rfl (hooks.trans List.map_replicate)))
  have only : gone.threads = [⟨.passing message errand (.left count), outer⟩] := rfl
  have shared : gone.shared = traffic.besides running calls recorders tree := rfl
  obtain ⟨later, passes⟩ := exists_passed count only shared recorded
  have same : traffic.applyHooks errand.side message
      = (traffic.hooksOn errand.side).foldl Traffic.applyHook (message, traffic) := rfl
  rw [same, hooks]
  exact ⟨later, { passes with leads := looked.trans passes.leads }⟩

end Hooks

/-! ## The steps of a bus -/

/-- A crowd of one thread that stands where some traffic does, after some messages were handed over
and some events were pushed. -/
structure Stands (crowd : Crowd σ) (traffic : Traffic) (handed : List Message)
    (events : List Event) : Prop where
  only : crowd.threads = [.alone traffic]
  shared : crowd.shared = traffic.besides crowd.shared.running crowd.shared.calls
    crowd.shared.recording.recorders crowd.shared.recording.tree
  handed : crowd.handed = handed
  pushed : crowd.pushed = events

section Steps

open Traffic

variable {traffic after : Traffic} {handed : List Message} {events : List Event} {count : Nat}

/-- A message leaves as it is sent. -/
theorem exists_sent {message : Message} {mode : Mode} {owned : List Delivery}
    {next : Nat → Program} {running : Option Running} {calls : List Call}
    {recorders : List Recorder} {tree : FileTree}
    (only : crowd.threads
      = [⟨.passing message (.leaving mode owned next) .entering, traffic.calls⟩])
    (shared : crowd.shared = traffic.besides running calls recorders tree)
    (paired : PairedAt (List.replicate count recorder) traffic) :
    ∃ later, Leads recorder crowd later ∧
      later.Stands (traffic.send message mode owned next) crowd.handed
        (crowd.pushed ++
          (offers (traffic.hooksOn .outbound) (message, traffic)).filterMap Prod.snd) := by
  obtain ⟨seen, leads, only, shared, handed, pushed⟩ :=
    exists_seen only shared paired.outbound paired.recorded
  obtain ⟨left, recording, applied, resembles⟩ :=
    applyHooks_captures paired.onlyCaptures .outbound message
  simp only [Errand.side, applied] at only shared
  have sent : traffic.send message mode owned next =
      let targeted := { traffic with recording := recording }.targets left mode
      { targeted.2 with
        running := none
        calls := ⟨left, targeted.1, targeted.1.length, left.reply, owned, next⟩ ::
          traffic.calls } := by
    simp only [send, applied, resembles.reply, calls_targets]
  obtain ⟨_, session, _, _⟩ := seen
  subst only shared handed
  have departed := leads.step (.moves 0 rfl (.departs rfl
    (targets_besides { traffic with recording := recording } none traffic.calls recorders tree
      left mode)))
  rw [sent]
  exact ⟨_, departed, rfl, rfl, rfl, pushed⟩

/-- A message is drafted and leaves. -/
theorem exists_drafted {draft : Draft} {reply : Option String} {mode : Mode}
    {owned : List Delivery} {next : Nat → Program} {running : Option Running} {calls : List Call}
    {recorders : List Recorder} {tree : FileTree}
    (only : crowd.threads = [⟨.passing (traffic.prepare draft reply).1 (.leaving mode owned next)
      .entering, traffic.calls⟩])
    (shared : crowd.shared = (traffic.prepare draft reply).2.besides running calls recorders tree)
    (paired : PairedAt (List.replicate count recorder) traffic) :
    ∃ later, Leads recorder crowd later ∧
      later.Stands ((traffic.prepare draft reply).2.send (traffic.prepare draft reply).1 mode owned
          next)
        (crowd.handed ++ Sight.deliveries [traffic.sending draft reply])
        (crowd.pushed ++ Sight.events [traffic.sending draft reply]) := by
  obtain ⟨under, same, bus⟩ := prepare_keeps traffic draft reply
  rw [← under] at only
  have hooked : PairedAt (List.replicate count recorder) (traffic.prepare draft reply).2 :=
    paired.of_same (congrArg List.length same) fun side => by rw [hooksOn, bus, hooksOn]
  obtain ⟨later, leads, stands⟩ := exists_sent only shared hooked
  have offered : Sight.events [traffic.sending draft reply]
      = (offers ((traffic.prepare draft reply).2.hooksOn .outbound)
          (traffic.prepare draft reply)).filterMap Prod.snd :=
    congrArg (List.filterMap Prod.snd) (List.append_nil _)
  rw [offered, show Sight.deliveries [traffic.sending draft reply] = [] from rfl, List.append_nil]
  exact ⟨later, leads, stands⟩

/-- A message arrives as it is served. -/
theorem exists_handed {message : Message} {handler : Handler} {brought : List Delivery}
    {running : Option Running} {calls : List Call} {recorders : List Recorder} {tree : FileTree}
    (only : crowd.threads
      = [⟨.passing message (.arriving handler brought) .entering, traffic.calls⟩])
    (shared : crowd.shared = traffic.besides running calls recorders tree)
    (paired : PairedAt (List.replicate count recorder) traffic) :
    ∃ later, Leads recorder crowd later ∧
      later.Stands (traffic.serve message handler brought)
        (crowd.handed ++ [(traffic.applyHooks .inbound message).1])
        (crowd.pushed ++
          (offers (traffic.hooksOn .inbound) (message, traffic)).filterMap Prod.snd) := by
  obtain ⟨seen, leads, only, shared, handed, pushed⟩ :=
    exists_seen only shared paired.inbound paired.recorded
  obtain ⟨left, recording, applied, -⟩ :=
    applyHooks_captures paired.onlyCaptures .inbound message
  simp only [Errand.side, applied] at only shared
  obtain ⟨_, session, _, _⟩ := seen
  subst only shared handed
  have handed := leads.step (.moves 0 rfl (.hands rfl))
  rw [serve, applied]
  exact ⟨_, handed, rfl, rfl, rfl, pushed⟩

/-- A thread without a program goes on with its innermost dispatch. -/
theorem Stands.continues (stands : crowd.Stands traffic handed events)
    (paired : PairedAt (List.replicate count recorder) traffic) (idle : traffic.running = none)
    (continued : traffic.continue? = some after) :
    ∃ later, Leads recorder crowd later ∧
      later.Stands after (handed ++ Sight.deliveries traffic.continuing.toList)
        (events ++ Sight.events traffic.continuing.toList) := by
  obtain ⟨only, shared, rfl, rfl⟩ := stands
  generalize crowd.shared.running = running, crowd.shared.calls = calls,
    crowd.shared.recording.recorders = recorders, crowd.shared.recording.tree = tree at shared
  obtain ⟨_, session, _, handed⟩ := crowd
  subst only shared
  -- What is under way elsewhere on the bus is nothing to the thread: it is named and left alone.
  let before : Crowd σ :=
    ⟨traffic.besides running calls recorders tree, session, [.alone traffic], handed⟩
  have doing : (Thread.alone traffic).doing = .idle := by rw [Thread.alone, idle]
  unfold continue? at continued
  split at continued
  next => cases continued
  next call outer innermost =>
    split at continued
    next served =>
      cases continued
      have concluded : Leads recorder before _ := Leads.here.step
        (.moves 0 rfl (.concludes doing innermost served
          (conclude_besides { traffic with calls := outer } none recorders tree call)))
      have shown : traffic.continuing = some (.reached call.count) := by
        simp only [continuing, innermost, served]
      rw [shown]
      exact ⟨_, concluded, rfl, rfl, (List.append_nil _).symm, (List.append_nil _).symm⟩
    next handler brought later unserved =>
      cases continued
      let waiting : Traffic := { traffic with calls := { call with targets := later } :: outer }
      let served : Crowd σ := before.exchange 0
        ⟨.passing call.message (.arriving handler brought) .entering, waiting.calls⟩
      have serves : Leads recorder before served :=
        Leads.here.step (.moves 0 rfl (.serves doing innermost unserved))
      have only : served.threads = [⟨.passing call.message (.arriving handler brought) .entering,
          waiting.calls⟩] := rfl
      have shared : served.shared = waiting.besides running calls recorders tree := rfl
      have hooked : PairedAt (List.replicate count recorder) waiting :=
        paired.of_same rfl fun _ => rfl
      obtain ⟨after, leads, stands⟩ := exists_handed only shared hooked
      have shown : traffic.continuing = some (traffic.handing call.message handler) := by
        simp only [continuing, innermost, unserved]
      rw [shown]
      obtain ⟨seen, left⟩ := hooks_withCalls traffic waiting.calls .received
        (List.replicate count recorder) call.message
      rw [← paired.inbound] at seen left
      have delivered : Sight.deliveries [traffic.handing call.message handler]
          = [(waiting.applyHooks .inbound call.message).1] := congrArg (fun m => [m]) left.symm
      have offered : Sight.events [traffic.handing call.message handler]
          = (offers (waiting.hooksOn .inbound) (call.message, waiting)).filterMap Prod.snd :=
        congrArg (List.filterMap Prod.snd) ((List.append_nil _).trans seen.symm)
      rw [Option.toList_some, delivered, offered]
      exact ⟨after, serves.trans leads, stands⟩

/-- A program does the next thing. -/
theorem Stands.advances (stands : crowd.Stands traffic handed events)
    (paired : PairedAt (List.replicate count recorder) traffic) {owned : List Delivery}
    {program : Program} (runs : traffic.running = some ⟨owned, program⟩)
    (descends : ∀ draft message offers, traffic.asking owned program
      = some (.sent draft message offers) → draft.Descends handed) :
    ∃ later, Leads recorder crowd later ∧
      later.Stands (traffic.advance owned program)
        (handed ++ Sight.deliveries (traffic.asking owned program).toList)
        (events ++ Sight.events (traffic.asking owned program).toList) := by
  obtain ⟨only, shared, rfl, rfl⟩ := stands
  generalize crowd.shared.running = running, crowd.shared.calls = calls,
    crowd.shared.recording.recorders = recorders, crowd.shared.recording.tree = tree at shared
  obtain ⟨_, session, _, handed⟩ := crowd
  subst only shared
  let before : Crowd σ :=
    ⟨traffic.besides running calls recorders tree, session, [.alone traffic], handed⟩
  have doing : (Thread.alone traffic).doing = .running owned program := by
    rw [Thread.alone, runs]
  cases aside : program.sends with
  | false =>
    have acted : Leads recorder before _ := Leads.here.step (.moves 0 rfl
      (.acts doing aside (advance_besides traffic none recorders tree owned aside)))
    obtain ⟨noDelivery, noOffers⟩ := asking_aside traffic owned aside
    rw [noDelivery, noOffers]
    exact ⟨_, acted, rfl, rfl, (List.append_nil _).symm, (List.append_nil _).symm⟩
  | true =>
    cases program with
    | dispatch draft mode next =>
      let prepared := traffic.prepare draft none
      let drafted : Crowd σ :=
        { before with shared := prepared.2.besides running calls recorders tree }.exchange 0
          ⟨.passing prepared.1 (.leaving mode owned next) .entering, traffic.calls⟩
      have dispatched : Leads recorder before drafted := Leads.here.step (.moves 0 rfl
        (.dispatches doing (descends draft _ _ rfl)
          (prepare_besides traffic running calls recorders tree draft none)))
      have only : drafted.threads
        = [⟨.passing prepared.1 (.leaving mode owned next) .entering, traffic.calls⟩] := rfl
      obtain ⟨later, leads, stands⟩ := exists_drafted only rfl paired
      exact ⟨later, dispatched.trans leads, stands⟩
    | request draft name onReply given next =>
      let parted := owned.partition fun delivery => given.contains delivery.number
      let awaited := traffic.bus.await ⟨name, onReply⟩ parted.1
      let asking : Traffic := { traffic with bus := awaited.2 }
      let prepared := asking.prepare draft (some awaited.1)
      let drafted : Crowd σ :=
        { before with shared := prepared.2.besides running calls recorders tree }.exchange 0
          ⟨.passing prepared.1 (.leaving .toOne parted.2 next) .entering, asking.calls⟩
      have requested : Leads recorder before drafted := Leads.here.step (.moves 0 rfl
        (.requests doing (descends draft _ _ rfl) rfl rfl
          (prepare_besides asking running calls recorders tree draft _)))
      have only : drafted.threads
        = [⟨.passing prepared.1 (.leaving .toOne parted.2 next) .entering, asking.calls⟩] := rfl
      have hooked : PairedAt (List.replicate count recorder) asking :=
        paired.of_same rfl fun side => by cases side <;> rfl
      obtain ⟨later, leads, stands⟩ := exists_drafted only rfl hooked
      exact ⟨later, requested.trans leads, stands⟩
    | _ => cases aside

/-- A step of a bus whose hooks are those of one pipeline is some sections of a
thread that is alone. -/
theorem Stands.step (stands : crowd.Stands traffic handed events)
    (paired : PairedAt (List.replicate count recorder) traffic)
    (descends : ∀ draft message offers, traffic.sight? = some (.sent draft message offers) →
      draft.Descends handed)
    (stepped : traffic.step = some after) :
    ∃ later, Leads recorder crowd later ∧
      later.Stands after (handed ++ Sight.deliveries traffic.sight?.toList)
        (events ++ Sight.events traffic.sight?.toList) := by
  unfold Traffic.step at stepped
  unfold sight? at descends ⊢
  split at stepped
  next => cases stepped
  next free =>
    rw [if_neg free] at descends ⊢
    cases running : traffic.running with
    | some running =>
      simp only [running] at stepped descends ⊢
      cases stepped
      exact stands.advances paired running descends
    | none =>
      simp only [running] at stepped ⊢
      exact stands.continues paired running stepped

end Steps

/-! ## Courses -/

/-- Beside the thread others use the registry, and time goes on. -/
inductive Meanwhile (before : Traffic) : Traffic → Prop where
  | registers (bus : Bus) : Meanwhile before { before with bus := bus }
  | elapses (clock : Int64) : Meanwhile before { before with recording.clock := clock }

/-- What others do beside the thread is done by the crowd as well. -/
theorem Stands.meanwhile {traffic after : Traffic} {handed : List Message} {events : List Event}
    (stands : crowd.Stands traffic handed events) (done : Meanwhile traffic after) :
    ∃ later, Leads recorder crowd later ∧ later.Stands after handed events := by
  obtain ⟨only, shared, handed, pushed⟩ := stands
  cases done with
  | registers bus =>
    exact ⟨_, Leads.here.step (.registers bus), only,
      congrArg (fun shared : Traffic => { shared with bus := bus }) shared, handed, pushed⟩
  | elapses clock =>
    exact ⟨_, Leads.here.step (.elapses clock), only,
      congrArg (fun shared : Traffic => { shared with recording.clock := clock }) shared, handed,
      pushed⟩

/-- So a course of a bus on which a program was begun is one of the ways in which a crowd goes: it
hands over the same messages, and hooks push the events that they offer. -/
theorem Stands.of_course {recording : Recording} {program : Program} {capacity attempts : Nat}
    {policy : Backpressure} {store : σ} {directory : Option String} {steps : Nat}
    {seen : List Sight} {traffic : Traffic}
    (course : Traffic.Course Meanwhile
      (fun traffic => ∃ count, Traffic.PairedAt (List.replicate count recorder) traffic)
      ((Traffic.new recording).start program) steps seen traffic)
    (descend : Sight.Descend seen) :
    ∃ crowd, Leads recorder
        (start (.new recording) (.start capacity policy attempts store directory)) crowd ∧
      crowd.Stands traffic (Sight.deliveries seen) (Sight.events seen) := by
  induction course with
  | here => exact ⟨_, Leads.here.step (.enters program), rfl, rfl, rfl, rfl⟩
  | meanwhile _ done ih =>
    obtain ⟨crowd, leads, stands⟩ := ih descend
    obtain ⟨later, goesOn, stands⟩ := stands.meanwhile done
    exact ⟨later, leads.trans goesOn, stands⟩
  | step _ paired stepped ih =>
    obtain ⟨count, paired⟩ := paired
    obtain ⟨crowd, leads, stands⟩ := ih fun earlier draft message offers before =>
      descend earlier draft message offers (before.trans (List.prefix_append _ _))
    obtain ⟨later, goesOn, stands⟩ := stands.step paired
      (fun draft message offers shown => descend _ draft message offers
        (shown ▸ List.prefix_refl _)) stepped
    refine ⟨later, leads.trans goesOn, ?_⟩
    rwa [Sight.deliveries_append, Sight.events_append]

end Crowd

end CausalTrace
