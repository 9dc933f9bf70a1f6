import CausalTrace.Proofs.Bus.Threads

/-!
# What comes first among events

An event says that a message leaves, or it comes after one: the message arrives, or another names it
as a parent.  Events are accepted in an order that agrees with this, whatever threads do and however
pushes wait for each other.  A hook lets a message go on only when its push has returned, so by the
time a message has left, no event of its leaving is still to be accepted; and no one can receive it
or name it before.

An id is settled when it was drawn and no thread sends a message under it any more.  It stays
settled, because ids differ.  `Orderly` says of everything that has been seen of a message that its
parents are settled, and its own id as well once it has left.
-/

namespace CausalTrace

/-! ## Events that depend on each other -/

namespace Event

/-- A message under an id was seen to leave. -/
def Sends (event : Event) (id : MessageId) : Prop :=
  event.direction = .sent ∧ ∃ identity, event.causality = some identity ∧ identity.id = id

/-- A message under an id was seen to arrive, or one that names it as a parent was seen. -/
def Follows (event : Event) (id : MessageId) : Prop :=
  ∃ identity, event.causality = some identity ∧
    (event.direction = .received ∧ identity.id = id ∨ id ∈ identity.parents)

/-- What was seen to leave has an identity, and is not among its own parents. -/
def Sound (event : Event) : Prop :=
  event.direction = .sent → ∃ identity, event.causality = some identity ∧ identity.id ≠ "" ∧
    identity.id ∉ identity.parents

/-- No event says that a message leaves which an earlier one comes after. -/
structure InOrder (events : List Event) : Prop where
  sound : ∀ event ∈ events, event.Sound
  ordered : events.Pairwise fun earlier later => ∀ id, earlier.Follows id → ¬later.Sends id

/-- Nothing is out of order where nothing was seen. -/
theorem inOrder_nil : InOrder [] := ⟨nofun, .nil⟩

/-- An event that is seen last is in order if nothing before it came after what it sends. -/
theorem InOrder.concat {events : List Event} (inOrder : InOrder events) {event : Event}
    (sound : event.Sound)
    (latest : ∀ earlier ∈ events, ∀ id, earlier.Follows id → ¬event.Sends id) :
    InOrder (events ++ [event]) where
  sound other among := by
    rcases List.mem_append.1 among with before | last
    · exact inOrder.sound other before
    · exact List.mem_singleton.1 last ▸ sound
  ordered := by
    refine List.pairwise_append.2 ⟨inOrder.ordered, List.pairwise_singleton _ _, ?_⟩
    intro earlier before other last
    exact List.mem_singleton.1 last ▸ latest earlier before

/-- Events that are left out do not put the others out of order. -/
theorem InOrder.sublist {events more : List Event} (inOrder : InOrder more)
    (sublist : events.Sublist more) : InOrder events where
  sound event among := inOrder.sound event (sublist.subset among)
  ordered := inOrder.ordered.sublist sublist

/-- An event that says that a message leaves stands before all that come after this message. -/
theorem InOrder.lt {events : List Event} (inOrder : InOrder events) {first second : Nat}
    {sent other : Event} {id : MessageId} (here : events[first]? = some sent)
    (there : events[second]? = some other) (sends : sent.Sends id) (follows : other.Follows id) :
    first < second := by
  obtain ⟨firstKnown, rfl⟩ := List.getElem?_eq_some_iff.1 here
  obtain ⟨secondKnown, rfl⟩ := List.getElem?_eq_some_iff.1 there
  rcases Nat.lt_trichotomy first second with before | rfl | behind
  · exact before
  · obtain ⟨left, identity, marked, rfl⟩ := sends
    obtain ⟨other, same, ⟨arrived, -⟩ | parent⟩ := follows
    · rw [left] at arrived
      cases arrived
    · obtain ⟨own, again, -, foreign⟩ := inOrder.sound _ (List.getElem_mem firstKnown) left
      rw [marked, Option.some.injEq] at same again
      subst same again
      exact absurd parent foreign
  · exact absurd sends
      (List.pairwise_iff_getElem.1 inOrder.ordered _ _ secondKnown firstKnown behind _ follows)

end Event

/-! ## What a hook sees -/

namespace Direction

variable {message : Message} {ids : IdSource} {sighting : Sighting}

/-- A hook that sees a message leave finds its identity, or gives it one of its own. -/
theorem sight_sent (sighted : Direction.sent.sight message.headers ids = sighting) :
    ∃ identity, sighting.causality = some identity ∧
      (sighting.message message).causality = some identity ∧
      (message.causality = some identity ∧ sighting.ids = ids ∨
        message.causality = none ∧ identity = Lineage.root.identity ids.id ∧
          sighting.ids = ids.advance) := by
  subst sighted
  let fresh := Lineage.root.identity ids.id
  have given : (fresh.attach message.headers).Carries fresh :=
    Causality.carries_attach (ids.draw_ne_empty _) message.headers
  cases carried : Causality.extract message.headers with
  | error malformed =>
    have none : message.causality = none := by rw [Message.causality, carried]
    refine ⟨_, ?_, ?_, .inr ⟨none, rfl, ?_⟩⟩ <;> simp only [sight, carried]
    · rfl
    · exact Headers.Carries.causality given
    · rfl
  | ok found =>
    cases found with
    | none =>
      have none : message.causality = none := by rw [Message.causality, carried]
      refine ⟨_, ?_, ?_, .inr ⟨none, rfl, ?_⟩⟩ <;> simp only [sight, carried]
      · rfl
      · exact Headers.Carries.causality given
      · rfl
    | some identity =>
      have marked : message.causality = some identity := Headers.Carries.causality carried
      refine ⟨identity, ?_, ?_, .inl ⟨marked, ?_⟩⟩ <;> simp only [sight, carried]
      exact marked

/-- A hook that sees a message arrive leaves it alone. -/
theorem sight_received (sighted : Direction.received.sight message.headers ids = sighting) :
    sighting.causality = message.causality ∧ sighting.message message = message ∧
      sighting.ids = ids := by
  subst sighted
  cases carried : Causality.extract message.headers with
  | error malformed =>
    simp only [sight, carried, Message.causality, Sighting.message, and_self]
  | ok found => simp only [sight, carried, Message.causality, Sighting.message, and_self]

end Direction

/-! ## Where a message is -/

namespace Thread

/-- The message that a thread is sending and that has not yet left. -/
def leaving? (thread : Thread) : Option Message :=
  match thread.doing with
  | .passing message (.leaving _ _ _) _ => some message
  | _ => none

/-- Its id, if it has one yet. -/
def leavingId? (thread : Thread) : Option MessageId :=
  (thread.leaving?.bind Message.causality).map Causality.id

/-- The push that a thread waits for. -/
def pushing? (thread : Thread) : Option Nat :=
  match thread.doing with
  | .passing _ _ (.pushing place _) => some place
  | _ => none

/-- The messages that have left and that a thread delivers. -/
def carried (thread : Thread) : List Message :=
  (match thread.doing with
    | .passing message (.arriving _ _) _ => [message]
    | _ => []) ++ thread.calls.map Call.message

/-- A thread that is alone with traffic is not on the way out with a message. -/
theorem leaving?_alone (traffic : Traffic) : (alone traffic).leaving? = none := by
  unfold leaving? alone
  cases traffic.running <;> rfl

/-- A thread that is alone carries the messages of its dispatches. -/
theorem carried_alone (traffic : Traffic) :
    (alone traffic).carried = traffic.calls.map Call.message := by
  unfold carried alone
  cases traffic.running <;> rfl

end Thread

namespace Crowd

variable {σ : Type} {crowd after : Crowd σ} {thread turned : Thread}
  {place : Nat} {id : MessageId}

/-- An id was drawn from the source. -/
def Drawn (crowd : Crowd σ) (id : MessageId) : Prop :=
  ∃ turn < crowd.ids.drawn, crowd.ids.draw turn = id

/-- An id was drawn, and no message is leaving under it. -/
def Settled (crowd : Crowd σ) (id : MessageId) : Prop :=
  crowd.Drawn id ∧ ∀ thread ∈ crowd.threads, thread.leavingId? ≠ some id

/-- A message whose id and parents are settled. -/
def Gone (crowd : Crowd σ) (message : Message) : Prop :=
  ∀ identity, message.causality = some identity →
    crowd.Settled identity.id ∧ ∀ parent ∈ identity.parents, crowd.Settled parent

/-- Everything that has been seen of messages comes after what it depends on. -/
structure Orderly (crowd : Crowd σ) : Prop where
  leaving : ∀ thread ∈ crowd.threads, ∀ message identity, thread.leaving? = some message →
    message.causality = some identity →
      crowd.Drawn identity.id ∧ ∀ parent ∈ identity.parents, crowd.Settled parent
  /-- No two threads send under one id. -/
  apart : ∀ (one other : Nat) first second id, crowd.threads[one]? = some first →
    crowd.threads[other]? = some second → first.leavingId? = some id →
      second.leavingId? = some id → one = other
  carried : ∀ thread ∈ crowd.threads, ∀ message ∈ thread.carried, crowd.Gone message
  handed : ∀ message ∈ crowd.handed, crowd.Gone message
  pushed : ∀ (place : Nat) event stage,
    crowd.session.line.calls[place]? = some (.push event stage) →
      event.Sound ∧ ∀ id, event.Follows id → crowd.Settled id
  /-- Whoever sends a message waits for the pushes that say so. -/
  awaited : ∀ (place : Nat) event stage id,
    crowd.session.line.calls[place]? = some (.push event stage) →
      (Channel.Call.push event stage).isDone = false → event.Sends id →
        ∃ (index : Nat) (thread : Thread), crowd.threads[index]? = some thread ∧
          thread.leavingId? = some id ∧ thread.pushing? = some place
  inOrder : Event.InOrder (crowd.session.line.accepted.map Prod.snd)

/-- A crowd without threads is orderly. -/
theorem orderly_start (shared : Traffic) (capacity : Nat) (policy : Backpressure) (attempts : Nat)
    (store : σ) (directory : Option String) :
    Orderly (start shared (.start capacity policy attempts store directory)) where
  leaving _ among := nomatch among
  apart _ _ _ _ _ here := nomatch here
  carried _ among := nomatch among
  handed _ among := nomatch among
  pushed _ _ _ here := nomatch here
  awaited _ _ _ _ here := nomatch here
  inOrder := Event.inOrder_nil

/-! ## What is settled stays settled -/

/-- An id that was drawn stays drawn. -/
theorem Drawn.later (drawn : crowd.Drawn id) (draws : crowd.ids.Draws after.ids) :
    after.Drawn id := by
  obtain ⟨turn, earlier, here⟩ := drawn
  exact ⟨turn, Nat.lt_of_lt_of_le earlier draws.drawn, draws.source ▸ here⟩

/-- So it does when threads send under the ids that they sent under, or under new ones. -/
theorem Settled.later (settled : crowd.Settled id) (draws : crowd.ids.Draws after.ids)
    (leaving : ∀ thread ∈ after.threads, ∀ id, thread.leavingId? = some id →
      (∃ thread ∈ crowd.threads, thread.leavingId? = some id) ∨ ¬crowd.Drawn id) :
    after.Settled id := by
  obtain ⟨drawn, gone⟩ := settled
  refine ⟨drawn.later draws, fun thread among sends => ?_⟩
  rcases leaving thread among id sends with ⟨earlier, known, same⟩ | fresh
  · exact gone earlier known same
  · exact fresh drawn

/-- A message that is gone stays so, as long as what is settled does. -/
theorem Gone.later {message : Message} (gone : crowd.Gone message)
    (settled : ∀ id, crowd.Settled id → after.Settled id) : after.Gone message := by
  intro identity marked
  obtain ⟨own, parents⟩ := gone identity marked
  exact ⟨settled _ own, fun parent among => settled _ (parents parent among)⟩

/-- Whoever is sending does it under an id that was drawn. -/
theorem Orderly.drawn (orderly : Orderly crowd) (among : thread ∈ crowd.threads)
    (leaves : thread.leavingId? = some id) : crowd.Drawn id := by
  obtain ⟨identity, carried, rfl⟩ := Option.map_eq_some_iff.1 leaves
  obtain ⟨message, leaving, marked⟩ := Option.bind_eq_some_iff.1 carried
  exact (orderly.leaving thread among message identity leaving marked).1

/-! ## Another thread in the place of one -/

/-- A thread has become another, which sends under the id that it sent under or under a new one. -/
structure Exchanged (crowd after : Crowd σ) (place : Nat) (thread turned : Thread) : Prop where
  here : crowd.threads[place]? = some thread
  threads : after.threads = crowd.threads.set place turned
  draws : crowd.ids.Draws after.ids
  leaving : ∀ id, turned.leavingId? = some id → thread.leavingId? = some id ∨ ¬crowd.Drawn id

namespace Exchanged

variable (exchanged : Exchanged crowd after place thread turned)

include exchanged

/-- The thread was one of the crowd. -/
theorem among : thread ∈ crowd.threads := List.mem_of_getElem? exchanged.here

/-- At its place stands what it has become; elsewhere stands who stood there. -/
theorem cases_getElem? {index : Nat} {other : Thread} (there : after.threads[index]? = some other) :
    index = place ∧ other = turned ∨ index ≠ place ∧ crowd.threads[index]? = some other := by
  rw [exchanged.threads] at there
  by_cases same : place = index
  · subst same
    obtain ⟨known, -⟩ := List.getElem?_eq_some_iff.1 exchanged.here
    rw [List.getElem?_set_self known, Option.some.injEq] at there
    exact .inl ⟨rfl, there.symm⟩
  · rw [List.getElem?_set_ne same] at there
    exact .inr ⟨Ne.symm same, there⟩

/-- Every thread is what it has become or was there before. -/
theorem cases_mem {other : Thread} (known : other ∈ after.threads) :
    other = turned ∨ other ∈ crowd.threads := by
  obtain ⟨index, there⟩ := List.mem_iff_getElem?.1 known
  rcases exchanged.cases_getElem? there with ⟨-, same⟩ | ⟨-, earlier⟩
  · exact .inl same
  · exact .inr (List.mem_of_getElem? earlier)

/-- The others stand where they stood. -/
theorem others {index : Nat} (elsewhere : index ≠ place) {other : Thread}
    (there : crowd.threads[index]? = some other) : after.threads[index]? = some other := by
  rw [exchanged.threads, List.getElem?_set_ne (Ne.symm elsewhere), there]

/-- At its place stands what it has become. -/
theorem itself : after.threads[place]? = some turned := by
  obtain ⟨known, -⟩ := List.getElem?_eq_some_iff.1 exchanged.here
  rw [exchanged.threads, List.getElem?_set_self known]

/-- An id that is settled stays so. -/
theorem settled (settled : crowd.Settled id) : after.Settled id := by
  refine settled.later exchanged.draws fun other known id leaves => ?_
  rcases exchanged.cases_mem known with rfl | earlier
  · exact (exchanged.leaving id leaves).imp_left fun left => ⟨thread, exchanged.among, left⟩
  · exact .inl ⟨other, earlier, leaves⟩

/-- Still no two threads send under one id. -/
theorem apart (orderly : Orderly crowd) (one other : Nat) (first second : Thread) (id : MessageId)
    (here : after.threads[one]? = some first) (there : after.threads[other]? = some second)
    (leaves : first.leavingId? = some id) (leavesToo : second.leavingId? = some id) :
    one = other := by
  -- Who did not send under an id before sends under one that no other can have.
  have alone {index : Nat} {another : Thread} (elsewhere : index ≠ place)
      (stands : crowd.threads[index]? = some another) (same : another.leavingId? = some id)
      (turns : turned.leavingId? = some id) : False := by
    rcases exchanged.leaving id turns with left | fresh
    · exact elsewhere (orderly.apart index place another thread id stands exchanged.here same left)
    · exact fresh (orderly.drawn (List.mem_of_getElem? stands) same)
  rcases exchanged.cases_getElem? here with ⟨rfl, rfl⟩ | ⟨notOne, firstStands⟩
  · rcases exchanged.cases_getElem? there with ⟨rfl, -⟩ | ⟨notOther, secondStands⟩
    · rfl
    · exact (alone notOther secondStands leavesToo leaves).elim
  · rcases exchanged.cases_getElem? there with ⟨rfl, rfl⟩ | ⟨notOther, secondStands⟩
    · exact (alone notOne firstStands leaves leavesToo).elim
    · exact orderly.apart one other first second id firstStands secondStands leaves leavesToo

/-- What holds of the thread that was exchanged and of what it has pushed or handed over holds of
all, since nothing that was settled is unsettled. -/
theorem orderly (orderly : Orderly crowd)
    (leaving : ∀ message identity, turned.leaving? = some message →
      message.causality = some identity →
        after.Drawn identity.id ∧ ∀ parent ∈ identity.parents, after.Settled parent)
    (carried : ∀ message ∈ turned.carried, after.Gone message)
    (handed : ∀ message ∈ after.handed, message ∈ crowd.handed ∨ after.Gone message)
    (pushed : ∀ (index : Nat) event stage,
      after.session.line.calls[index]? = some (.push event stage) →
        crowd.session.line.calls[index]? = some (.push event stage) ∨
          event.Sound ∧ ∀ id, event.Follows id → after.Settled id)
    (awaited : ∀ (index : Nat) event stage id,
      after.session.line.calls[index]? = some (.push event stage) →
        (Channel.Call.push event stage).isDone = false → event.Sends id →
          (∃ (other : Nat) (waits : Thread), other ≠ place ∧ crowd.threads[other]? = some waits ∧
            waits.leavingId? = some id ∧ waits.pushing? = some index) ∨
          turned.leavingId? = some id ∧ turned.pushing? = some index)
    (accepted : after.session.line.accepted = crowd.session.line.accepted) : Orderly after where
  leaving other known message identity leaves marked := by
    rcases exchanged.cases_mem known with rfl | earlier
    · exact leaving message identity leaves marked
    · obtain ⟨drawn, parents⟩ := orderly.leaving other earlier message identity leaves marked
      exact ⟨drawn.later exchanged.draws, fun parent among =>
        exchanged.settled (parents parent among)⟩
  apart := exchanged.apart orderly
  carried other known message among := by
    rcases exchanged.cases_mem known with rfl | earlier
    · exact carried message among
    · exact (orderly.carried other earlier message among).later fun _ => exchanged.settled
  handed message among := by
    rcases handed message among with earlier | gone
    · exact (orderly.handed message earlier).later fun _ => exchanged.settled
    · exact gone
  pushed index event stage here := by
    rcases pushed index event stage here with earlier | new
    · obtain ⟨sound, follows⟩ := orderly.pushed index event stage earlier
      exact ⟨sound, fun id behind => exchanged.settled (follows id behind)⟩
    · exact new
  awaited index event stage id here pending sends := by
    rcases awaited index event stage id here pending sends with
      ⟨other, waits, elsewhere, there, leaves, pushing⟩ | ⟨leaves, pushing⟩
    · exact ⟨other, waits, exchanged.others elsewhere there, leaves, pushing⟩
    · exact ⟨place, turned, exchanged.itself, leaves, pushing⟩
  inOrder := accepted ▸ orderly.inOrder

/-- The same for a thread that has begun no push, and that has waited for none that may
still be accepted. -/
theorem orderly_aside (orderly : Orderly crowd) (session : after.session = crowd.session)
    (pushing : ∀ index, thread.pushing? = some index →
      ∃ call, crowd.session.line.calls[index]? = some call ∧ call.isDone = true)
    (leaving : ∀ message identity, turned.leaving? = some message →
      message.causality = some identity →
        after.Drawn identity.id ∧ ∀ parent ∈ identity.parents, after.Settled parent)
    (carried : ∀ message ∈ turned.carried, after.Gone message)
    (handed : ∀ message ∈ after.handed, message ∈ crowd.handed ∨ after.Gone message) :
    Orderly after := by
  refine exchanged.orderly orderly leaving carried handed (fun index event stage here => ?_)
    (fun index event stage id here pending sends => ?_) (by rw [session])
  · exact .inl (session ▸ here)
  · rw [session] at here
    obtain ⟨other, waits, there, leaves, pushes⟩ :=
      orderly.awaited index event stage id here pending sends
    refine .inl ⟨other, waits, ?_, there, leaves, pushes⟩
    rintro rfl
    rw [exchanged.here] at there
    cases there
    obtain ⟨call, stands, done⟩ := pushing index pushes
    rw [here] at stands
    cases stands
    rw [pending] at done
    cases done

/-- The same for a thread that goes on with the messages that it had. -/
theorem orderly_rests (orderly : Orderly crowd) (session : after.session = crowd.session)
    (handed : after.handed = crowd.handed) (leaving : turned.leaving? = thread.leaving?)
    (carried : ∀ message ∈ turned.carried, message ∈ thread.carried)
    (pushing : ∀ index, thread.pushing? = some index →
      ∃ call, crowd.session.line.calls[index]? = some call ∧ call.isDone = true) :
    Orderly after := by
  refine exchanged.orderly_aside orderly session pushing (fun message identity leaves marked => ?_)
    (fun message known => ?_) (fun message known => .inl (handed ▸ known))
  · obtain ⟨drawn, parents⟩ :=
      orderly.leaving thread exchanged.among message identity (leaving ▸ leaves) marked
    exact ⟨drawn.later exchanged.draws, fun parent among =>
      exchanged.settled (parents parent among)⟩
  · exact (orderly.carried thread exchanged.among message (carried message known)).later fun _ =>
      exchanged.settled

/-- The same for a thread that has begun to push an event and waits. -/
theorem orderly_pushing (orderly : Orderly crowd) {event : Event}
    (line : after.session.line = crowd.session.line.begin (.push event .entering))
    (handed : after.handed = crowd.handed) (free : thread.pushing? = none)
    (waits : turned.pushing? = some crowd.session.line.calls.length) (sound : event.Sound)
    (follows : ∀ id, event.Follows id → after.Settled id)
    (sends : ∀ id, event.Sends id → turned.leavingId? = some id)
    (leaving : ∀ message identity, turned.leaving? = some message →
      message.causality = some identity →
        after.Drawn identity.id ∧ ∀ parent ∈ identity.parents, after.Settled parent)
    (carried : ∀ message ∈ turned.carried, after.Gone message) : Orderly after := by
  have begun {index : Nat} {other : Event} {stage : Channel.PushStage}
      (here : after.session.line.calls[index]? = some (.push other stage)) :
      crowd.session.line.calls[index]? = some (.push other stage) ∨
        index = crowd.session.line.calls.length ∧ other = event := by
    rw [line, Channel.Calls.begin, List.getElem?_append] at here
    split at here
    next => exact .inl here
    next behind =>
      obtain ⟨only, same⟩ := List.getElem?_eq_some_iff.1 here
      rw [List.length_singleton] at only
      rw [List.getElem_singleton] at same
      cases same
      exact .inr ⟨by omega, rfl⟩
  refine exchanged.orderly orderly leaving carried (fun message known => .inl (handed ▸ known))
    (fun index other stage here => ?_) (fun index other stage id here pending sent => ?_)
    (by rw [line]; rfl)
  · rcases begun here with earlier | ⟨-, rfl⟩
    · exact .inl earlier
    · exact .inr ⟨sound, follows⟩
  · rcases begun here with earlier | ⟨rfl, rfl⟩
    · obtain ⟨who, other, there, leaves, pushes⟩ :=
        orderly.awaited index _ _ id earlier pending sent
      refine .inl ⟨who, other, ?_, there, leaves, pushes⟩
      rintro rfl
      rw [exchanged.here] at there
      cases there
      rw [free] at pushes
      cases pushes
    · exact .inr ⟨sends id sent, waits⟩

end Exchanged

end Crowd

end CausalTrace
