import CausalTrace.Proofs.Bus.Precedence
import CausalTrace.Proofs.Pipeline.Shutdown

/-!
# Every turn keeps the order

A crowd that is orderly stays so, whichever thread has its turn, whichever push goes on, and
whatever the writer and the one who stops do.  Programs begin to send under new ids, a message has
left once its sender stops sending under its id, and an event is accepted only while its push has
not returned.
-/

namespace CausalTrace

namespace Crowd

variable {σ : Type} {recorder : Nat} {crowd after : Crowd σ} {thread turned : Thread}
  {place : Nat} {id : MessageId}

/-! ## A section of a thread -/

/-- The next id is new. -/
theorem not_drawn_id (distinct : crowd.ids.advance.Distinct) : ¬crowd.Drawn crowd.ids.id := by
  rintro ⟨turn, earlier, same⟩
  have again := distinct turn crowd.ids.drawn (Nat.lt_succ_of_lt earlier) (Nat.lt_succ_self _) same
  exact Nat.ne_of_lt earlier again

/-- The id that a source was about to give out has been drawn once it has gone on. -/
theorem drawn_id (advanced : after.ids = crowd.ids.advance) : after.Drawn crowd.ids.id := by
  refine ⟨crowd.ids.drawn, ?_, ?_⟩ <;> rw [advanced]
  · exact Nat.lt_succ_self _
  · rfl

/-- A program sends a message, which is under a new id if it has one. -/
theorem Orderly.prepares (orderly : Orderly crowd) (here : crowd.threads[place]? = some thread)
    {shared traffic : Traffic} (same : shared.recording.ids = crowd.ids) {draft : Draft}
    {reply : Option String} {message : Message}
    (prepared : shared.prepare draft reply = (message, traffic))
    (descends : draft.Descends crowd.handed) (distinct : traffic.recording.ids.Distinct)
    {owned kept : List Delivery} {program : Program} (doing : thread.doing = .running owned program)
    (mode : Mode) (next : Nat → Program) :
    Orderly (exchange { crowd with shared := traffic } place
      { thread with doing := .passing message (.leaving mode kept next) .entering }) := by
  obtain ⟨_, calls⟩ := thread
  cases doing
  have cases := Traffic.prepare_cases prepared
  have draws := Traffic.draws_prepare prepared
  rw [same] at cases draws
  have exchanged : Exchanged crowd (exchange { crowd with shared := traffic } place _) place _
      ⟨.passing message (.leaving mode kept next) .entering, calls⟩ := ⟨here, rfl, draws, by
    intro id leaves
    obtain ⟨identity, marked, rfl⟩ := Option.map_eq_some_iff.1 leaves
    have marked : message.causality = some identity := marked
    rcases cases with ⟨none, -⟩ | ⟨lineage, -, some, advanced⟩
    · rw [none] at marked
      cases marked
    · rw [some, Option.some.injEq] at marked
      subst marked
      exact .inr (not_drawn_id (advanced ▸ distinct))⟩
  refine exchanged.orderly_aside orderly rfl nofun ?_ (fun message known => ?_) fun _ => .inl
  · rintro _ identity ⟨⟩ marked
    rcases cases with ⟨none, -⟩ | ⟨lineage, given, some, advanced⟩
    · rw [none] at marked
      cases marked
    · rw [some, Option.some.injEq] at marked
      subst marked
      refine ⟨drawn_id advanced, fun parent among => ?_⟩
      obtain ⟨earlier, known, identity, marked, rfl⟩ := descends lineage given parent among
      exact exchanged.settled (orderly.handed earlier known identity marked).1
  · exact (orderly.carried _ exchanged.among message known).later fun _ => exchanged.settled

/-- A message has left, and no other is leaving under its id. -/
theorem Orderly.departs (orderly : Orderly crowd) (here : crowd.threads[place]? = some thread)
    {traffic : Traffic} (same : traffic.recording.ids = crowd.ids) {message : Message} {mode : Mode}
    {owned : List Delivery} {next : Nat → Program}
    (doing : thread.doing = .passing message (.leaving mode owned next) (.left 0)) {call : Call}
    (leaves : call.message = message) :
    Orderly (exchange { crowd with shared := traffic } place ⟨.idle, call :: thread.calls⟩) := by
  obtain ⟨_, calls⟩ := thread
  cases doing
  subst leaves
  have exchanged : Exchanged crowd (exchange { crowd with shared := traffic } place _) place _
      ⟨.idle, call :: calls⟩ := ⟨here, rfl, .of_eq same, nofun⟩
  have gone : Gone (exchange { crowd with shared := traffic } place ⟨.idle, call :: calls⟩)
      call.message := by
    intro identity marked
    obtain ⟨drawn, parents⟩ := orderly.leaving _ exchanged.among _ identity rfl marked
    refine ⟨⟨drawn.later exchanged.draws, fun other known leavesToo => ?_⟩, fun parent among =>
      exchanged.settled (parents parent among)⟩
    obtain ⟨index, there⟩ := List.mem_iff_getElem?.1 known
    rcases exchanged.cases_getElem? there with ⟨-, rfl⟩ | ⟨elsewhere, stands⟩
    · cases leavesToo
    · refine elsewhere (orderly.apart index place other _ _ stands here leavesToo ?_)
      show (call.message.causality).map Causality.id = _
      rw [marked]
      rfl
  refine exchanged.orderly_aside orderly rfl nofun nofun (fun message known => ?_) fun _ => .inl
  rcases List.mem_cons.1 known with rfl | earlier
  · exact gone
  · exact (orderly.carried _ exchanged.among message earlier).later fun _ => exchanged.settled

/-- A message is handed over that has left. -/
theorem Orderly.hands (orderly : Orderly crowd) (here : crowd.threads[place]? = some thread)
    {traffic : Traffic} (same : traffic.recording.ids = crowd.ids) {message : Message}
    {handler : Handler} {brought : List Delivery}
    (doing : thread.doing = .passing message (.arriving handler brought) (.left 0))
    (owned : List Delivery) (program : Program) :
    Orderly (exchange { crowd with shared := traffic, handed := crowd.handed ++ [message] } place
      { thread with doing := .running owned program }) := by
  obtain ⟨_, calls⟩ := thread
  cases doing
  have exchanged : Exchanged crowd
      (exchange { crowd with shared := traffic, handed := crowd.handed ++ [message] } place _)
      place _ ⟨.running owned program, calls⟩ := ⟨here, rfl, .of_eq same, nofun⟩
  have gone {other : Message} (known : other ∈ message :: calls.map Call.message) :=
    (orderly.carried _ exchanged.among other known).later fun _ => exchanged.settled
  refine exchanged.orderly_aside orderly rfl nofun nofun (fun other known => ?_)
    (fun other known => ?_)
  · exact gone (List.mem_cons_of_mem _ known)
  · rcases List.mem_append.1 known with earlier | last
    · exact .inl earlier
    · exact .inr (gone (List.mem_singleton.1 last ▸ .head _))

/-- A hook has seen a message leave and begins to push the event. -/
theorem Orderly.capturesSent (orderly : Orderly crowd) (here : crowd.threads[place]? = some thread)
    {message : Message} {mode : Mode} {owned : List Delivery} {next : Nat → Program} {count : Nat}
    {sighting : Sighting}
    (doing : thread.doing = .passing message (.leaving mode owned next) (.left (count + 1)))
    (sighted : Direction.sent.sight message.headers crowd.ids = sighting)
    (distinct : sighting.ids.Distinct) (time : Int64) :
    Orderly (exchange (crowd.captured sighting (sighting.event message .sent time)) place
      { thread with
        doing := .passing (sighting.message message) (.leaving mode owned next)
          (.pushing crowd.session.line.calls.length count) }) := by
  obtain ⟨_, calls⟩ := thread
  cases doing
  have draws : crowd.ids.Draws sighting.ids := sighted ▸ Direction.draws_sight _ _ _
  obtain ⟨identity, seen, marked, source⟩ := Direction.sight_sent sighted
  let turned : Thread :=
    ⟨.passing (sighting.message message) (.leaving mode owned next)
      (.pushing crowd.session.line.calls.length count), calls⟩
  let after := exchange (crowd.captured sighting (sighting.event message .sent time)) place turned
  have leaves (id : MessageId) : turned.leavingId? = some id ↔ identity.id = id := by
    show ((sighting.message message).causality).map Causality.id = some id ↔ _
    rw [marked, Option.map_some, Option.some.injEq]
  have exchanged : Exchanged crowd after place _ turned := ⟨here, rfl, draws, fun id turns => by
    rw [leaves] at turns
    subst turns
    rcases source with ⟨same, -⟩ | ⟨-, rfl, advanced⟩
    · refine .inl ?_
      show (message.causality).map Causality.id = _
      rw [same]
      rfl
    · exact .inr (not_drawn_id (advanced ▸ distinct))⟩
  -- The identity that the message now has is its own or a new one without parents.
  obtain ⟨drawn, parents⟩ : after.Drawn identity.id ∧
      ∀ parent ∈ identity.parents, after.Settled parent := by
    rcases source with ⟨same, -⟩ | ⟨-, rfl, advanced⟩
    · obtain ⟨drawn, parents⟩ := orderly.leaving _ exchanged.among message identity rfl same
      exact ⟨drawn.later exchanged.draws, fun parent among =>
        exchanged.settled (parents parent among)⟩
    · exact ⟨drawn_id advanced, nofun⟩
  refine exchanged.orderly_pushing orderly rfl rfl rfl rfl (fun _ => ?_) (fun id follows => ?_)
    (fun id sends => ?_) ?_ fun message known => ?_
  · refine ⟨identity, seen, ?_, fun own => ?_⟩
    · obtain ⟨turn, -, id⟩ := drawn
      exact id ▸ sighting.ids.draw_ne_empty turn
    · exact (parents _ own).2 turned (List.mem_of_getElem? exchanged.itself) ((leaves _).2 rfl)
  · obtain ⟨other, same, ⟨⟨⟩, -⟩ | parent⟩ := follows
    cases seen.symm.trans same
    exact parents id parent
  · obtain ⟨-, other, same, rfl⟩ := sends
    cases seen.symm.trans same
    exact (leaves _).2 rfl
  · rintro _ other ⟨⟩ again
    cases marked.symm.trans again
    exact ⟨drawn, parents⟩
  · exact (orderly.carried _ exchanged.among message known).later fun _ => exchanged.settled

/-- A hook has seen a message arrive and begins to push the event. -/
theorem Orderly.capturesReceived (orderly : Orderly crowd)
    (here : crowd.threads[place]? = some thread) {message : Message} {handler : Handler}
    {brought : List Delivery} {count : Nat} {sighting : Sighting}
    (doing : thread.doing = .passing message (.arriving handler brought) (.left (count + 1)))
    (sighted : Direction.received.sight message.headers crowd.ids = sighting) (time : Int64) :
    Orderly (exchange (crowd.captured sighting (sighting.event message .received time)) place
      { thread with
        doing := .passing (sighting.message message) (.arriving handler brought)
          (.pushing crowd.session.line.calls.length count) }) := by
  obtain ⟨_, calls⟩ := thread
  cases doing
  obtain ⟨seen, same, source⟩ := Direction.sight_received sighted
  let turned : Thread :=
    ⟨.passing (sighting.message message) (.arriving handler brought)
      (.pushing crowd.session.line.calls.length count), calls⟩
  let after :=
    exchange (crowd.captured sighting (sighting.event message .received time)) place turned
  have exchanged : Exchanged crowd after place _ turned := ⟨here, rfl, .of_eq source, nofun⟩
  have gone : after.Gone message :=
    (orderly.carried _ exchanged.among message (.head _)).later fun _ => exchanged.settled
  refine exchanged.orderly_pushing orderly rfl rfl rfl rfl nofun (fun id follows => ?_)
    (fun id sends => nomatch sends.1) nofun fun other known => ?_
  · obtain ⟨identity, marked, own⟩ := follows
    obtain ⟨settled, parents⟩ := gone identity (seen ▸ marked)
    rcases own with ⟨-, rfl⟩ | parent
    · exact settled
    · exact parents id parent
  · rcases List.mem_cons.1 known with rfl | earlier
    · exact same.symm ▸ gone
    · exact (orderly.carried _ exchanged.among other (List.mem_cons_of_mem _ earlier)).later
        fun _ => exchanged.settled

/-- A thread goes on with the messages that it had. -/
theorem Orderly.rests (orderly : Orderly crowd) (here : crowd.threads[place]? = some thread)
    {traffic : Traffic} (same : traffic.recording.ids = crowd.ids)
    (leaving : turned.leaving? = thread.leaving?)
    (carried : ∀ message ∈ turned.carried, message ∈ thread.carried)
    (pushing : ∀ index, thread.pushing? = some index →
      ∃ call, crowd.session.line.calls[index]? = some call ∧ call.isDone = true) :
    Orderly (exchange { crowd with shared := traffic } place turned) := by
  have exchanged : Exchanged crowd (exchange { crowd with shared := traffic } place turned) place
      thread turned := ⟨here, rfl, .of_eq same, fun id leaves => by
    rw [Thread.leavingId?, leaving] at leaves
    exact .inl leaves⟩
  exact exchanged.orderly_rests orderly rfl rfl leaving carried pushing

/-- Every section of a thread keeps the order. -/
theorem Orderly.moves (orderly : Orderly crowd) (here : crowd.threads[place]? = some thread)
    (moves : crowd.Moves recorder thread after turned) (distinct : after.ids.Distinct) :
    Orderly (after.exchange place turned) := by
  -- In most sections the thread sends and carries what it did before; a message that is prepared,
  -- captured or let go has a lemma of its own.
  cases moves with
  | @acts owned program traffic doing aside advanced =>
    obtain ⟨calls, recording⟩ :=
      Traffic.advance_aside (thread.view crowd.shared) owned aside
    rw [advanced] at calls recording
    obtain ⟨_, outer⟩ := thread
    cases doing
    refine orderly.rests here (congrArg Recording.ids recording) ?_ ?_ nofun
    · exact Thread.leaving?_alone traffic
    · rw [Thread.carried_alone, calls]
      exact fun _ => id
  | dispatches doing descends prepared =>
    exact orderly.prepares here (by rfl) prepared descends distinct doing _ _
  | requests doing descends parted awaits prepared =>
    exact orderly.prepares here (by rfl) prepared descends distinct doing _ _
  | @looks message errand count doing hooks =>
    obtain ⟨_, outer⟩ := thread
    cases doing
    cases errand <;> exact orderly.rests here rfl rfl (fun _ => id) nofun
  | @captures message errand count sighting doing sighted =>
    cases errand with
    | leaving mode owned next => exact orderly.capturesSent here doing sighted distinct _
    | arriving handler brought => exact orderly.capturesReceived here doing sighted _
  | @returns message errand index count call doing stands done =>
    obtain ⟨_, outer⟩ := thread
    cases doing
    have pushing (other : Nat) (waits : some index = some other) :
        ∃ call, crowd.session.line.calls[other]? = some call ∧ call.isDone = true :=
      ⟨call, Option.some.inj waits ▸ stands, done⟩
    cases errand <;> exact orderly.rests here rfl rfl (fun _ => id) pushing
  | @departs message mode owned next targets traffic doing targeted =>
    have recording := Traffic.recording_targets (thread.view crowd.shared) message mode
    rw [targeted] at recording
    exact orderly.departs here (congrArg Recording.ids recording) doing rfl
  | @serves call outer handler brought later doing innermost unserved =>
    obtain ⟨_, _⟩ := thread
    cases doing
    cases innermost
    refine orderly.rests here rfl rfl (fun message known => ?_) nofun
    rcases List.mem_cons.1 known with rfl | earlier
    · exact .head _
    · exact earlier
  | hands doing => exact orderly.hands here (by rfl) doing _ _
  | @concludes call outer traffic doing innermost served concluded =>
    have calls := Traffic.calls_conclude { thread.view crowd.shared with calls := outer } call
    have recording :=
      Traffic.recording_conclude { thread.view crowd.shared with calls := outer } call
    rw [concluded] at calls recording
    obtain ⟨_, _⟩ := thread
    cases doing
    cases innermost
    refine orderly.rests here (congrArg Recording.ids recording) ?_ ?_ nofun
    · exact Thread.leaving?_alone traffic
    · rw [Thread.carried_alone, calls]
      exact fun _ => List.mem_cons_of_mem _

/-! ## A section of the pipeline -/

section Pipeline

open Channel (Calls)

/-- The pushes that were begun go on, and at most one that had not returned is accepted. -/
structure Pursues (line later : Calls Event) : Prop where
  pushes : ∀ (place : Nat) event stage, later.calls[place]? = some (.push event stage) →
    ∃ earlier, line.calls[place]? = some (.push event earlier) ∧
      ((Channel.Call.push event stage).isDone = false →
        (Channel.Call.push event earlier).isDone = false)
  accepted : later.accepted = line.accepted ∨ ∃ place event stage,
    line.calls[place]? = some (.push event stage) ∧
      (Channel.Call.push event stage).isDone = false ∧
        later.accepted = line.accepted ++ [(place, event)]

variable {line later : Calls Event} {s behind : Session σ}

/-- Calls are pursued where calls and accepted items stay. -/
theorem Pursues.of_eq (calls : later.calls = line.calls)
    (accepted : later.accepted = line.accepted) : Pursues line later where
  pushes _ _ stage here := ⟨stage, calls ▸ here, id⟩
  accepted := .inl accepted

/-- A call of another kind begins. -/
theorem pursues_begin {call : Channel.Call Event}
    (other : ∀ event stage, call ≠ .push event stage) : Pursues line (line.begin call) where
  pushes place event stage here := by
    rw [Calls.begin, List.getElem?_append] at here
    split at here
    next => exact ⟨stage, here, id⟩
    next =>
      obtain ⟨only, same⟩ := List.getElem?_eq_some_iff.1 here
      rw [List.getElem_singleton] at same
      exact absurd same (other event stage)
  accepted := .inl rfl

/-- A section of any call pursues the pushes that were begun. -/
theorem pursues_advances (advanced : line.Advances place later) : Pursues line later := by
  -- A push that is found at the place of the section is what the section made of one.
  have turned {old new : Channel.Call Event} (here : line.calls[place]? = some old)
      (undone : old.isDone = false)
      (same : ∀ event stage, new = .push event stage → ∃ earlier, old = .push event earlier)
      (index : Nat) (event : Event) (stage : Channel.PushStage)
      (there : (line.calls.set place new)[index]? = some (.push event stage)) :
      ∃ earlier, line.calls[index]? = some (.push event earlier) ∧
        ((Channel.Call.push event stage).isDone = false →
          (Channel.Call.push event earlier).isDone = false) := by
    rw [List.getElem?_set] at there
    split at there
    next where_ =>
      subst where_
      split at there
      next =>
        obtain ⟨earlier, rfl⟩ := same event stage (Option.some.inj there)
        exact ⟨earlier, here, fun _ => undone⟩
      next => cases there
    next => exact ⟨stage, there, id⟩
  cases advanced.effect with
  | rejected here pending | dropped here pending | pushWaits here pending =>
    rcases pending with rfl | rfl <;>
      exact ⟨turned here rfl fun _ _ same => by cases same; exact ⟨_, rfl⟩, .inl rfl⟩
  | accepted here pending =>
    rcases pending with rfl | rfl <;>
      exact ⟨turned here rfl fun _ _ same => by cases same; exact ⟨_, rfl⟩,
        .inr ⟨place, _, _, here, rfl, rfl⟩⟩
  | pushCounted here =>
    exact ⟨turned here rfl fun _ _ same => by cases same; exact ⟨_, rfl⟩, .inl rfl⟩
  | taken here pending | ended here pending | receiveWaits here pending | timedOut here pending =>
    rcases pending with rfl | rfl <;> exact ⟨turned here rfl nofun, .inl rfl⟩
  | receiveCounted here | closed here | cleared here | discardCounted here =>
    exact ⟨turned here rfl nofun, .inl rfl⟩

/-- The writer pursues the pushes that were begun. -/
theorem pursues_works [Store σ] (works : s.Works behind) : Pursues s.line behind.line := by
  cases works with
  | ask => exact pursues_begin nofun
  | receive asked advanced => exact pursues_advances advanced
  | given | askAgain | finish | attempt | count => exact .of_eq rfl rfl

/-- The one who stops pursues them too: closing a channel takes no push back. -/
theorem pursues_stops (stops : s.Stops behind) : Pursues s.line behind.line := by
  cases stops with
  | stop | giveUp => exact pursues_begin nofun
  | close here advanced | discard here advanced => exact pursues_advances advanced
  | drain | inTime | tally | leave | look | load | report => exact .of_eq rfl rfl

/-- What is accepted comes after all that it depends on: as long as its push has not returned, its
message has not left, and no one can have come after it. -/
theorem Orderly.pursues (orderly : Orderly crowd) {capacity : Nat}
    (account : Calls.Account capacity crowd.session.line)
    (pursues : Pursues crowd.session.line behind.line) :
    Orderly { crowd with session := behind } where
  leaving := orderly.leaving
  apart := orderly.apart
  carried := orderly.carried
  handed := orderly.handed
  pushed index event stage here := by
    obtain ⟨earlier, there, -⟩ := pursues.pushes index event stage here
    exact orderly.pushed index event earlier there
  awaited index event stage id here pending sends := by
    obtain ⟨earlier, there, undone⟩ := pursues.pushes index event stage here
    exact orderly.awaited index event earlier id there (undone pending) sends
  inOrder := by
    show Event.InOrder (behind.line.accepted.map Prod.snd)
    rcases pursues.accepted with same | ⟨index, event, stage, here, pending, accepted⟩
    · exact same ▸ orderly.inOrder
    · rw [accepted, List.map_append]
      refine orderly.inOrder.concat (orderly.pushed index event stage here).1 ?_
      intro earlier among id follows sends
      obtain ⟨⟨other, _⟩, known, rfl⟩ := List.mem_map.1 among
      have settled : crowd.Settled id := by
        rcases (account.accepted_iff _ _).1 known with there | there <;>
          exact (orderly.pushed _ _ _ there).2 id follows
      obtain ⟨_, thread, there, leaves, -⟩ :=
        orderly.awaited index event stage id here pending sends
      exact settled.2 thread (List.mem_of_getElem? there) leaves

end Pipeline

/-! ## Every run -/

section Runs

variable [Store σ]

omit [Store σ] in
/-- A thread on which a program begins sends nothing yet. -/
theorem Orderly.enters (orderly : Orderly crowd) (program : Program) :
    Orderly { crowd with threads := crowd.threads ++ [.start program] } := by
  have cases_mem {thread : Thread} (known : thread ∈ crowd.threads ++ [.start program]) :
      thread ∈ crowd.threads ∨ thread = .start program :=
    (List.mem_append.1 known).imp_right List.mem_singleton.1
  have settled (id : MessageId) (settled : crowd.Settled id) :
      Settled { crowd with threads := crowd.threads ++ [.start program] } id := by
    refine settled.later (.refl _) fun thread known id leaves => ?_
    rcases cases_mem known with earlier | rfl
    · exact .inl ⟨thread, earlier, leaves⟩
    · cases leaves
  -- A thread that has just started sends nothing, so whoever sends was there before.
  have stands {index : Nat} {thread : Thread} {id : MessageId}
      (here : (crowd.threads ++ [.start program])[index]? = some thread)
      (leaves : thread.leavingId? = some id) : crowd.threads[index]? = some thread := by
    rw [List.getElem?_append] at here
    split at here
    next => exact here
    next =>
      obtain ⟨only, same⟩ := List.getElem?_eq_some_iff.1 here
      rw [List.getElem_singleton] at same
      subst same
      cases leaves
  constructor
  · intro thread known message identity leaves marked
    rcases cases_mem known with earlier | rfl
    · obtain ⟨drawn, parents⟩ := orderly.leaving thread earlier message identity leaves marked
      exact ⟨drawn, fun parent among => settled parent (parents parent among)⟩
    · cases leaves
  · intro one other first second id here there leaves leavesToo
    exact orderly.apart one other first second id (stands here leaves) (stands there leavesToo)
      leaves leavesToo
  · intro thread known message among
    rcases cases_mem known with earlier | rfl
    · exact (orderly.carried thread earlier message among).later settled
    · cases among
  · exact fun message known => (orderly.handed message known).later settled
  · intro index event stage here
    obtain ⟨sound, follows⟩ := orderly.pushed index event stage here
    exact ⟨sound, fun id behind => settled id (follows id behind)⟩
  · intro index event stage id here pending sends
    obtain ⟨other, thread, there, leaves, pushes⟩ :=
      orderly.awaited index event stage id here pending sends
    obtain ⟨known, -⟩ := List.getElem?_eq_some_iff.1 there
    exact ⟨other, thread, (List.getElem?_append_left known).trans there, leaves, pushes⟩
  · exact orderly.inOrder

/-- Every section of every party keeps a crowd orderly. -/
theorem Orderly.step (orderly : Orderly crowd) {capacity : Nat}
    (account : Channel.Calls.Account capacity crowd.session.line)
    (next : Step recorder crowd after) (distinct : after.ids.Distinct) : Orderly after := by
  cases next with
  | moves place here moves => exact orderly.moves here moves distinct
  | enters program => exact orderly.enters program
  | registers | elapses => exact { orderly with }
  | pushes index here advanced => exact orderly.pursues account (pursues_advances advanced)
  | works works => exact orderly.pursues account (pursues_works works)
  | stops stops => exact orderly.pursues account (pursues_stops stops)

/-- However threads, the writer and the one who stops take turns: if ids differ, events are accepted
in an order that agrees with what they depend on. -/
theorem Leads.orderly {shared : Traffic} {capacity attempts : Nat} {policy : Backpressure}
    {store : σ} {directory : Option String}
    (leads : Leads recorder (start shared (.start capacity policy attempts store directory)) crowd)
    (distinct : crowd.ids.Distinct) : Orderly crowd := by
  induction leads with
  | here => exact orderly_start shared capacity policy attempts store directory
  | step prior next ih =>
    have kept := Session.kept_start capacity policy attempts store directory
    have account := (Session.Leads.kept kept prior.session).books.account
    exact (ih (distinct.earlier next.draws)).step account next distinct

end Runs

end Crowd

end CausalTrace
