import CausalTrace.Proofs.Bus.Descent
import CausalTrace.Proofs.Pipeline.Accounting

/-!
# Threads at a bus

Any number of threads use one bus, and the hooks on it are those of one pipeline.  A thread runs a
program of its own and stacks its dispatches as `Traffic` does.  Between two of its sections any
other thread may run one of its own, a push may go on, the writer may work and the pipeline may be
stopped.  The sections are those of `Traffic`, `Direction.sight` and `Session`; a hook captures a
message, begins to push the event, and lets the message go on only when the push has returned.

The registry of the bus changes in smaller parts than `Traffic` has sections for: a number is drawn
before what it is for has its place, and hooks leave one side before the other.  Here it may become
any other at any moment, so that no interleaving of those parts is left out.
-/

namespace CausalTrace

/-! ## What a thread does -/

/-- Where a message is going while the hooks of a side see it. -/
inductive Errand where
  /-- To whoever receives it; a program waits until all are served. -/
  | leaving (mode : Mode) (owned : List Delivery) (next : Nat → Program)
  /-- To a handler, with the deliveries that this one brings along. -/
  | arriving (handler : Handler) (brought : List Delivery)

/-- The side of the bus on which hooks see a message. -/
def Errand.side : Errand → Side
  | leaving _ _ _ => .outbound
  | arriving _ _ => .inbound

/-- How far the hooks of a side have come with a message. -/
inductive Passage where
  /-- They have still to be looked up. -/
  | entering
  /-- So many have still to see it. -/
  | left (count : Nat)
  /-- One waits for the push at a place to return, and so many have still to see it. -/
  | pushing (place count : Nat)
  deriving DecidableEq, Repr

/-- What a thread is doing between two sections. -/
inductive Doing where
  /-- It goes on with the innermost of its dispatches, if there is one. -/
  | idle
  | running (owned : List Delivery) (program : Program)
  | passing (message : Message) (errand : Errand) (passage : Passage)

/-- A thread at a bus. -/
structure Thread where
  doing : Doing
  /-- Its dispatches under way, the innermost first. -/
  calls : List Call

namespace Thread

/-- A thread on which an outside caller begins a program. -/
def start (program : Program) : Thread := ⟨.running [] program, []⟩

/-- The thread that is alone with some traffic, none of which is at a hook. -/
def alone (traffic : Traffic) : Thread where
  doing :=
    match traffic.running with
    | some running => .running running.owned running.program
    | none => .idle
  calls := traffic.calls

/-- The bus as the thread finds it. -/
def view (thread : Thread) (shared : Traffic) : Traffic :=
  { shared with running := none, calls := thread.calls }

end Thread

/-- Whether a program is about to send a message. -/
def Program.sends : Program → Bool
  | .dispatch _ _ _ | .request _ _ _ _ _ => true
  | _ => false

/-- What a draft names as parents are messages among those that were handed over.  One without
parents is a root and names none. -/
def Draft.Descends (draft : Draft) (handed : List Message) : Prop :=
  ∀ lineage, draft.lineage = some lineage → ∀ parent ∈ lineage.parents,
    ∃ message ∈ handed, ∃ identity, message.causality = some identity ∧ identity.id = parent

namespace Draft

variable {draft : Draft} {handed : List Message}

/-- A root names no parents. -/
theorem descends_root (handed : List Message) (lineage : draft.lineage = some .root) :
    draft.Descends handed := by
  intro named given parent known
  rw [lineage, Option.some.injEq] at given
  subst given
  cases known

/-- What is sent through a delivery names its message or nothing. -/
theorem descends_below {message : Message} (delivered : message ∈ handed)
    (lineage : draft.lineage = some (.below message)) : draft.Descends handed := by
  intro named given parent known
  rw [lineage, Option.some.injEq] at given
  subst given
  rw [Lineage.below] at known
  split at known
  next identity marked =>
    exact ⟨message, delivered, identity, marked, (List.mem_singleton.1 known).symm⟩
  next => cases known

end Draft

namespace Sighting

/-- The message that a hook has looked at, as it goes on. -/
def message (sighting : Sighting) (seen : Message) : Message :=
  { seen with headers := sighting.headers }

/-- The event that a hook makes of a message it has looked at. -/
def event (sighting : Sighting) (seen : Message) (direction : Direction) (time : Int64) : Event :=
  ⟨(sighting.message seen).snapshot, sighting.causality, direction, time⟩

end Sighting

/-! ## The source of ids -/

/-- A later state of a source of ids. -/
structure IdSource.Draws (before after : IdSource) : Prop where
  source : after.draw = before.draw
  drawn : before.drawn ≤ after.drawn

namespace IdSource

/-- A source is a later state of itself. -/
theorem Draws.refl (ids : IdSource) : Draws ids ids := ⟨rfl, Nat.le_refl _⟩

/-- A source that has not changed is a later state of what it was. -/
theorem Draws.of_eq {before after : IdSource} (same : after = before) : Draws before after :=
  same ▸ .refl _

/-- A source that has given out an id is a later state of what it was. -/
theorem Draws.advance (ids : IdSource) : Draws ids ids.advance := ⟨rfl, Nat.le_succ _⟩

/-- No two of the ids that were drawn are the same. -/
def Distinct (ids : IdSource) : Prop :=
  ∀ one other, one < ids.drawn → other < ids.drawn → ids.draw one = ids.draw other → one = other

/-- Ids that are distinct now were distinct before. -/
theorem Distinct.earlier {before after : IdSource} (distinct : after.Distinct)
    (draws : before.Draws after) : before.Distinct := by
  intro one other first second same
  rw [← draws.source] at same
  exact distinct one other (Nat.lt_of_lt_of_le first draws.drawn)
    (Nat.lt_of_lt_of_le second draws.drawn) same

end IdSource

/-- A sight of headers draws an id or none. -/
theorem Direction.draws_sight (direction : Direction) (headers : Headers) (ids : IdSource) :
    ids.Draws (direction.sight headers ids).ids := by
  unfold sight
  split
  · exact .refl _
  · exact .advance _
  · exact .advance _
  · exact .refl _
  · exact .refl _

namespace Traffic

/-- A draft without a lineage is sent without an identity, any other under a new id. -/
theorem prepare_cases {traffic after : Traffic} {draft : Draft} {reply : Option String}
    {message : Message} (prepared : traffic.prepare draft reply = (message, after)) :
    message.causality = none ∧ after.recording.ids = traffic.recording.ids ∨
      ∃ lineage, draft.lineage = some lineage ∧
        message.causality = some (lineage.identity traffic.recording.ids.id) ∧
        after.recording.ids = traffic.recording.ids.advance := by
  unfold prepare at prepared
  split at prepared <;> cases prepared
  next => exact .inl ⟨rfl, rfl⟩
  next lineage given =>
    exact .inr ⟨lineage, given, Headers.Carries.causality
      (Causality.carries_attach (traffic.recording.ids.draw_ne_empty _) _), rfl⟩

/-- Preparing a draft draws ids. -/
theorem draws_prepare {traffic after : Traffic} {draft : Draft} {reply : Option String}
    {message : Message} (prepared : traffic.prepare draft reply = (message, after)) :
    traffic.recording.ids.Draws after.recording.ids := by
  rcases prepare_cases prepared with ⟨-, same⟩ | ⟨_, -, -, drawn⟩
  · exact .of_eq same
  · exact drawn ▸ .advance _

/-- A program that does not send leaves the dispatches of its thread and all recordings alone. -/
theorem advance_aside (traffic : Traffic) (owned : List Delivery) {program : Program}
    (aside : program.sends = false) :
    (traffic.advance owned program).calls = traffic.calls ∧
      (traffic.advance owned program).recording = traffic.recording := by
  cases program with
  | dispatch | request => cases aside
  | finish answer => exact ⟨calls_andThen _ _, recording_andThen _ _⟩
  | hold slot number next =>
    simp only [advance]
    split
    · exact ⟨rfl, rfl⟩
    · exact ⟨calls_andThen _ _, recording_andThen _ _⟩
  | drop number next => exact ⟨calls_andThen _ _, recording_andThen _ _⟩
  | _ => exact ⟨rfl, rfl⟩

end Traffic

/-! ## All threads and the pipeline -/

/-- The threads at a bus, and the session of the pipeline whose hooks are on it. -/
structure Crowd (σ : Type) where
  /-- The bus and all that programs share.  What runs on it is told by the threads. -/
  shared : Traffic
  session : Session σ
  threads : List Thread
  /-- The messages that were handed to a handler. -/
  handed : List Message

namespace Crowd

variable {σ : Type}

/-- A bus with nobody on it, and a session of which nothing has been seen there. -/
def start (shared : Traffic) (session : Session σ) : Crowd σ := ⟨shared, session, [], []⟩

/-- Where ids come from. -/
def ids (crowd : Crowd σ) : IdSource := crowd.shared.recording.ids

/-- A hook has begun to push what it made of a message. -/
def captured (crowd : Crowd σ) (sighting : Sighting) (event : Event) : Crowd σ :=
  { crowd with
    shared.recording.ids := sighting.ids
    session := { crowd.session with
      line := crowd.session.line.begin (.push event .entering)
      stats := crowd.session.stats.sighted sighting.malformed } }

/-- A section of a thread: what it leaves of the crowd, in which the thread has still to be
exchanged, and of the thread. -/
inductive Moves (recorder : Nat) (crowd : Crowd σ) (thread : Thread) :
    Crowd σ → Thread → Prop where
  /-- A program asks for something other than to send. -/
  | acts {owned program traffic} (doing : thread.doing = .running owned program)
      (aside : program.sends = false)
      (advanced : (thread.view crowd.shared).advance owned program = traffic) :
      Moves recorder crowd thread { crowd with shared := traffic } (.alone traffic)
  | dispatches {owned draft mode next message traffic}
      (doing : thread.doing = .running owned (.dispatch draft mode next))
      (descends : draft.Descends crowd.handed)
      (prepared : crowd.shared.prepare draft none = (message, traffic)) :
      Moves recorder crowd thread { crowd with shared := traffic }
        { thread with doing := .passing message (.leaving mode owned next) .entering }
  | requests {owned draft name onReply given next moved kept address bus message traffic}
      (doing : thread.doing = .running owned (.request draft name onReply given next))
      (descends : draft.Descends crowd.handed)
      (parted : owned.partition (fun delivery => given.contains delivery.number) = (moved, kept))
      (awaits : crowd.shared.bus.await ⟨name, onReply⟩ moved = (address, bus))
      (prepared : { crowd.shared with bus := bus }.prepare draft (some address)
        = (message, traffic)) :
      Moves recorder crowd thread { crowd with shared := traffic }
        { thread with doing := .passing message (.leaving .toOne kept next) .entering }
  /-- The hooks are looked up; all of them are those of the pipeline. -/
  | looks {message errand count} (doing : thread.doing = .passing message errand .entering)
      (hooks : crowd.shared.hooksOn errand.side
        = List.replicate count (.capture recorder (Traffic.Side.captured errand.side))) :
      Moves recorder crowd thread crowd
        { thread with doing := .passing message errand (.left count) }
  /-- A hook captures a message and begins to push the event. -/
  | captures {message errand count sighting}
      (doing : thread.doing = .passing message errand (.left (count + 1)))
      (sighted : (Traffic.Side.captured errand.side).sight message.headers crowd.ids = sighting) :
      Moves recorder crowd thread
        (crowd.captured sighting (sighting.event message (Traffic.Side.captured errand.side)
          crowd.shared.recording.clock))
        { thread with
          doing := .passing (sighting.message message) errand
            (.pushing crowd.session.line.calls.length count) }
  /-- The push of a hook has returned, whatever became of the event. -/
  | returns {message errand place count call}
      (doing : thread.doing = .passing message errand (.pushing place count))
      (here : crowd.session.line.calls[place]? = some call) (done : call.isDone = true) :
      Moves recorder crowd thread crowd
        { thread with doing := .passing message errand (.left count) }
  /-- A message that all hooks have seen leaves. -/
  | departs {message mode owned next targets traffic}
      (doing : thread.doing = .passing message (.leaving mode owned next) (.left 0))
      (targeted : (thread.view crowd.shared).targets message mode = (targets, traffic)) :
      Moves recorder crowd thread { crowd with shared := traffic }
        ⟨.idle, ⟨message, targets, targets.length, message.reply, owned, next⟩ :: thread.calls⟩
  /-- The next handler is about to be served. -/
  | serves {call outer handler brought later} (doing : thread.doing = .idle)
      (innermost : thread.calls = call :: outer)
      (unserved : call.targets = (handler, brought) :: later) :
      Moves recorder crowd thread crowd
        ⟨.passing call.message (.arriving handler brought) .entering,
          { call with targets := later } :: outer⟩
  /-- A message that all hooks have seen arrives. -/
  | hands {message handler brought}
      (doing : thread.doing = .passing message (.arriving handler brought) (.left 0)) :
      Moves recorder crowd thread
        { crowd with
          shared := { crowd.shared.write (.delivered handler.name message) with
            delivered := crowd.shared.delivered + 1 }
          handed := crowd.handed ++ [message] }
        { thread with
          doing := .running (⟨crowd.shared.delivered, message⟩ :: brought)
            (handler.run ⟨crowd.shared.delivered, message⟩) }
  | concludes {call outer traffic} (doing : thread.doing = .idle)
      (innermost : thread.calls = call :: outer) (served : call.targets = [])
      (concluded : { thread.view crowd.shared with calls := outer }.conclude call = traffic) :
      Moves recorder crowd thread { crowd with shared := traffic } (.alone traffic)

/-- Another thread takes the place of one. -/
def exchange (crowd : Crowd σ) (place : Nat) (turned : Thread) : Crowd σ :=
  { crowd with threads := crowd.threads.set place turned }

section Steps

variable [Store σ]

/-- A section of one of the parties. -/
inductive Step (recorder : Nat) (crowd : Crowd σ) : Crowd σ → Prop where
  | moves (place : Nat) {thread after turned} (here : crowd.threads[place]? = some thread)
      (moves : crowd.Moves recorder thread after turned) :
      Step recorder crowd (after.exchange place turned)
  /-- An outside caller comes with a thread. -/
  | enters (program : Program) :
      Step recorder crowd { crowd with threads := crowd.threads ++ [.start program] }
  /-- The registry changes in part or whole. -/
  | registers (bus : Bus) : Step recorder crowd { crowd with shared.bus := bus }
  /-- Time goes on. -/
  | elapses (clock : Int64) :
      Step recorder crowd { crowd with shared.recording.clock := clock }
  /-- A push that a hook has begun runs its next section. -/
  | pushes (place : Nat) {event stage line}
      (here : crowd.session.line.calls[place]? = some (.push event stage))
      (advanced : crowd.session.line.Advances place line) :
      Step recorder crowd { crowd with session := crowd.session.onLine line }
  | works {session} (works : crowd.session.Works session) :
      Step recorder crowd { crowd with session := session }
  | stops {session} (stops : crowd.session.Stops session) :
      Step recorder crowd { crowd with session := session }

/-- Any sections, interleaved in any way. -/
inductive Leads (recorder : Nat) (start : Crowd σ) : Crowd σ → Prop where
  | here : Leads recorder start start
  | step {crowd after} (prior : Leads recorder start crowd) (next : Step recorder crowd after) :
      Leads recorder start after

variable {recorder : Nat} {crowd after last : Crowd σ}

/-- What is led to can be led on. -/
theorem Leads.trans (before : Leads recorder crowd after) (behind : Leads recorder after last) :
    Leads recorder crowd last := by
  induction behind with
  | here => exact before
  | step _ next ih => exact .step ih next

end Steps

variable {recorder : Nat} {crowd after last : Crowd σ} {thread turned : Thread}

/-- A section of a thread draws new ids, or none. -/
theorem Moves.draws (moves : crowd.Moves recorder thread after turned) :
    crowd.ids.Draws after.ids := by
  cases moves with
  | acts doing aside advanced =>
    rw [← advanced]
    exact .of_eq (congrArg Recording.ids (Traffic.advance_aside _ _ aside).2)
  | dispatches doing descends prepared => exact Traffic.draws_prepare prepared
  | requests doing descends parted awaits prepared =>
    have draws := Traffic.draws_prepare prepared
    exact draws
  | looks | returns | serves => exact .refl _
  | captures doing sighted =>
    rw [← sighted]
    exact Direction.draws_sight _ _ _
  | @departs message mode owned next targets traffic doing targeted =>
    have same := Traffic.recording_targets (thread.view crowd.shared) message mode
    rw [targeted] at same
    exact .of_eq (congrArg Recording.ids same)
  | hands => exact .refl _
  | concludes doing innermost served concluded =>
    rw [← concluded]
    exact .of_eq (congrArg Recording.ids (Traffic.recording_conclude _ _))

/-! ## The session of the pipeline -/

section Sessions

variable [Store σ]

/-- To the pipeline a section of a thread is nothing, or a hook captures a message. -/
theorem Moves.session (moves : crowd.Moves recorder thread after turned) :
    Session.Leads crowd.session after.session := by
  cases moves with
  | @captures message errand count sighting doing sighted =>
    have begun (s : Session σ) (event : Event) :
        Session.Leads s (s.onLine (s.line.begin (.push event .entering))) :=
      Session.Leads.here.step (.captures (.begin event))
    cases malformed : sighting.malformed with
    | false =>
      have same : crowd.session.stats.sighted sighting.malformed = crowd.session.stats := by
        rw [malformed]
        rfl
      unfold captured
      rw [same]
      exact begun _ _
    | true =>
      have counted : crowd.session.stats.sighted sighting.malformed
          = { crowd.session.stats with malformed := crowd.session.stats.malformed + 1 } := by
        rw [malformed]
        rfl
      unfold captured
      rw [counted]
      exact (Session.Leads.here.step (.captures .misread)).trans (begun _ _)
  | _ => exact .here

/-- A section of a crowd is a section of the session or leaves it as it is. -/
theorem Step.session (next : Step recorder crowd after) :
    Session.Leads crowd.session after.session := by
  cases next with
  | moves place here moves => exact moves.session
  | enters | registers | elapses => exact .here
  | pushes place here advanced =>
    exact Session.Leads.here.step (.captures (.push place here advanced))
  | works works => exact Session.Leads.here.step (.works works)
  | stops stops => exact Session.Leads.here.step (.stops stops)

/-- What the pipeline does among threads is a session. -/
theorem Leads.session (leads : Leads recorder crowd last) :
    Session.Leads crowd.session last.session := by
  induction leads with
  | here => exact .here
  | step _ next ih => exact ih.trans next.session

/-- A section of a crowd draws ids and puts none back. -/
theorem Step.draws (next : Step recorder crowd after) : crowd.ids.Draws after.ids := by
  cases next with
  | moves place here moves => exact moves.draws
  | _ => exact .refl _

end Sessions

end Crowd

end CausalTrace
