import CausalTrace.Proofs.Bus.Capturing

/-!
# What a capture leaves

A capture hook decides by the first reserved header alone, but an identity that it gives replaces
all of them.  `Recording.capture_exact` says for any headers what comes of that: a sent message goes
on with an identity that can be read, the one in its event, and is otherwise as it was; a received
message goes on as it is.  What becomes of the event at the channel makes no difference to any of
it.

A header that cannot be read is counted by the hook that finds it.  Behind a hook that saw the
message leave there is none, so however often it is captured afterwards, nothing more is counted and
every event has the same identity.
-/

namespace CausalTrace

/-! ## Identities that can be read -/

/-- What is read has an id. -/
theorem Headers.Carries.id_ne_empty {headers : Headers} {identity : Causality}
    (carries : headers.Carries identity) : identity.id ≠ "" := by
  unfold Carries Causality.extract at carries
  split at carries
  next => cases carries
  next text _ =>
    unfold Causality.decode at carries
    split at carries
    next => cases carries
    next =>
      split at carries
      next => cases carries
      next named =>
        cases carries
        exact named

/-- The first reserved header cannot be read. -/
def Headers.Malformed (headers : Headers) : Prop :=
  ∃ fault, Causality.extract headers = .error fault

instance (headers : Headers) : Decidable headers.Malformed :=
  match extracted : Causality.extract headers with
  | .error fault => .isTrue ⟨fault, extracted⟩
  | .ok _ => .isFalse fun ⟨fault, refused⟩ => by
    rw [extracted] at refused
    cases refused

/-- Headers that carry an identity can be read. -/
theorem Headers.Carries.not_malformed {headers : Headers} {identity : Causality}
    (carries : headers.Carries identity) : ¬headers.Malformed := by
  rintro ⟨fault, refused⟩
  rw [carries] at refused
  cases refused

/-- Headers carry one identity at most. -/
theorem Headers.Carries.unique {headers : Headers} {identity other : Causality}
    (carries : headers.Carries identity) (carriesOther : headers.Carries other) :
    identity = other :=
  Option.some.inj (Except.ok.inj (carries.symm.trans carriesOther))

/-- What leaves without an identity that can be read is given one. -/
theorem Direction.sight_of_not_carries {headers : Headers}
    (unmarked : ∀ found, ¬headers.Carries found) (ids : IdSource) :
    Direction.sent.sight headers ids = .root headers headers.Malformed ids := by
  cases extracted : Causality.extract headers with
  | error fault =>
    have malformed : headers.Malformed := ⟨fault, extracted⟩
    simp only [sight, extracted, malformed, decide_true]
  | ok found =>
    cases found with
    | none =>
      have readable : ¬headers.Malformed := fun ⟨fault, refused⟩ => by
        rw [extracted] at refused
        cases refused
      simp only [sight, extracted, readable, decide_false]
    | some found => exact absurd extracted (unmarked found)

/-- A hook finds malformed what cannot be read, whichever way it captures. -/
theorem Direction.malformed_sight_iff (direction : Direction) (headers : Headers)
    (ids : IdSource) :
    (direction.sight headers ids).malformed = true ↔ headers.Malformed := by
  unfold sight Headers.Malformed
  cases extracted : Causality.extract headers with
  | error fault => cases direction <;> simp [Sighting.root]
  | ok found => cases direction <;> cases found <;> simp [Sighting.root]

/-! ## What hooks count -/

section Counting

/-- How an event is settled has nothing to do with malformed headers. -/
theorem Stats.malformed_settle (stats : Stats) (settlement : Settlement) :
    (stats.settle settlement).malformed = stats.malformed := by
  cases settlement <;> rfl

/-- A sight counts one malformed header or none. -/
theorem Stats.malformed_sighted (stats : Stats) (malformed : Bool) :
    (stats.sighted malformed).malformed = stats.malformed + if malformed then 1 else 0 := by
  cases malformed <;> rfl

variable {σ : Type} [Store σ]

/-- A writer counts no headers. -/
theorem Workplace.malformed_step {work after : Workplace σ} (stepped : work.step = some after) :
    after.stats.malformed = work.stats.malformed := by
  unfold step at stepped
  split at stepped
  next =>
    unfold takeNext at stepped
    split at stepped <;> cases stepped <;> rfl
  next =>
    unfold attempt at stepped
    split at stepped
    next => cases stepped
    next =>
      dsimp only at stepped
      split at stepped
      case h_3 => split at stepped <;> cases stepped <;> rfl
      all_goals
        cases stepped
        rfl
  next event settlement _ =>
    cases stepped
    exact work.stats.malformed_settle settlement
  next => cases stepped
  next => cases stepped

/-- A writer counts no malformed headers, however long it works. -/
theorem Workplace.malformed_steps (count : Nat) (work : Workplace σ) :
    (steps count work).stats.malformed = work.stats.malformed := by
  induction count generalizing work with
  | zero => rfl
  | succ count ih =>
    rw [steps]
    split
    next => rfl
    next after stepped => rw [ih, malformed_step stepped]

/-- A recorder that works counts no malformed headers. -/
theorem Recorder.malformed_work (recorder : Recorder) (tree : FileTree) :
    (recorder.work tree).1.stats.malformed = recorder.stats.malformed := by
  unfold work
  split
  · rfl
  · exact Workplace.malformed_steps _ _

/-- Pushing counts no headers, even if it lets a writer work. -/
theorem Recorder.malformed_push (recorder : Recorder) (tree : FileTree) (event : Event) :
    (recorder.push tree event).2.1.stats.malformed = recorder.stats.malformed := by
  unfold push
  split
  · exact recorder.malformed_work tree
  · rfl

end Counting

/-! ## One capture -/

/-- A sent message goes on with an identity that can be read.  It is the one that could be read
before, and then the message is as it was, or a new one without parents. -/
structure Message.Sent (ids : IdSource) (message after : Message) (identity : Causality) :
    Prop where
  carries : after.headers.Carries identity
  named : identity.id ≠ ""
  resembles : message.Resembles after
  kept : ∀ found, message.headers.Carries found → identity = found ∧ after = message
  root : (∀ found, ¬message.headers.Carries found) → identity = ⟨ids.id, [], none⟩

/-- How many headers the recorder at a place has counted that could not be read. -/
def Recording.malformedAt (recording : Recording) (place : Nat) : Nat :=
  ((recording.recorders[place]?).map fun recorder => recorder.stats.malformed).getD 0

/-- What comes of a capture for a recorder: how the message goes on, the event and the recording. -/
structure Recording.Captured (recording : Recording) (place : Nat) (recorder : Recorder)
    (direction : Direction) (message : Message) (event : Event) (after : Message)
    (result : Except TraceError Unit) (last : Recording) : Prop where
  /-- The event tells of the message as it goes on. -/
  tells : event.message = after.snapshot ∧ event.direction = direction
  sent : direction = .sent →
    ∃ identity, event.causality = some identity ∧ message.Sent recording.ids after identity
  received : direction = .received → after = message ∧ event.causality = message.causality
  /-- This event is pushed once, and the result tells what the push came to. -/
  pushed : ∃ phase pushed,
    { recorder with
        stats := recorder.stats.sighted message.headers.Malformed }.push recording.tree event
        = (phase, pushed, last.tree) ∧
      last.recorders = recording.recorders.set place pushed ∧
      result = captureResult pushed.channel phase
  counted : last.malformedAt place
    = recording.malformedAt place + if message.headers.Malformed then 1 else 0
  /-- A record of the event has the headers of the message without the reserved ones. -/
  recorded : ∀ id, (Record.ofEvent id event).headers
    = (message.headers.without Causality.headerName).toText

/-- A message without a readable identity is given one. -/
theorem Message.sent_root (ids : IdSource) {message : Message}
    (unmarked : ∀ found, ¬message.headers.Carries found) :
    message.Sent ids
      { message with headers := Causality.attach ⟨ids.id, [], none⟩ message.headers }
      ⟨ids.id, [], none⟩ where
  carries := Causality.carries_attach (ids.draw_ne_empty _) _
  named := ids.draw_ne_empty _
  resembles := ⟨rfl, rfl, Headers.without_set message.headers _ _, rfl⟩
  kept found carries := absurd carries (unmarked found)
  root _ := rfl

/-- A hook leaves a sent message with an identity. -/
theorem Message.sent_sight (ids : IdSource) (message : Message) :
    let sighting := Direction.sent.sight message.headers ids
    ∃ identity, sighting.causality = some identity ∧
      message.Sent ids { message with headers := sighting.headers } identity := by
  intro sighting
  by_cases marked : ∃ found, message.headers.Carries found
  · obtain ⟨identity, carries⟩ := marked
    have left : sighting = ⟨message.headers, some identity, false, ids⟩ :=
      Direction.sent.sight_of_carries carries ids
    rw [left]
    exact ⟨identity, rfl, carries, carries.id_ne_empty, .refl message,
      fun found same => ⟨carries.unique same, rfl⟩, fun unmarked => absurd carries (unmarked _)⟩
  · have unmarked := not_exists.1 marked
    have root : sighting = .root message.headers message.headers.Malformed ids :=
      Direction.sight_of_not_carries unmarked ids
    rw [root]
    exact ⟨_, rfl, sent_root ids unmarked⟩

/-- A hook leaves a received message as it is. -/
theorem Message.received_sight (ids : IdSource) (message : Message) :
    let sighting := Direction.received.sight message.headers ids
    sighting.headers = message.headers ∧ sighting.causality = message.causality := by
  unfold Direction.sight Message.causality
  cases Causality.extract message.headers <;> exact ⟨rfl, rfl⟩

/-- Every capture at a recorder comes to what `Captured` says, with the one event that it offers. -/
theorem Recording.captured {recording : Recording} {place : Nat} {recorder : Recorder}
    (here : recording.recorders[place]? = some recorder) (direction : Direction)
    (message : Message) :
    ∃ event after result last,
      recording.offer? place direction message = some event ∧
      recording.capture place direction message = (after, result, last) ∧
      recording.Captured place recorder direction message event after result last := by
  have malformed : (direction.sight message.headers recording.ids).malformed
      = decide message.headers.Malformed :=
    Bool.eq_iff_iff.2 ((direction.malformed_sight_iff _ _).trans decide_eq_true_iff.symm)
  have stays := direction.without_sight message.headers recording.ids
  refine ⟨_, _, _, _, by rw [offer?, here]; rfl, by rw [capture, here], ⟨rfl, rfl⟩, ?_, ?_, ?_, ?_,
    fun _ => ?_⟩
  · rintro rfl
    exact message.sent_sight recording.ids
  · rintro rfl
    obtain ⟨same, read⟩ := message.received_sight recording.ids
    exact ⟨by rw [same], read⟩
  · rw [malformed]
    exact ⟨_, _, rfl, rfl, rfl⟩
  · have present : place < recording.recorders.length := (List.getElem?_eq_some_iff.1 here).1
    simp only [malformedAt, List.getElem?_set_self present, here, Option.map_some, Option.getD_some]
    rw [Recorder.malformed_push, Stats.malformed_sighted, malformed]
    simp only [decide_eq_true_eq]
  · exact congrArg Headers.toText stays

/-! ## Captures one after the other -/

/-- A message is captured any number of times, each time by a hook of some recorder in whatever
state it is then.  The events are those that were pushed, with the number of headers that were
counted because they could not be read. -/
inductive Message.Captures (message : Message) : List Event → Nat → Message → Prop where
  | none : Captures message [] 0 message
  | capture {events counted middle} {recording : Recording}
      {place direction event after result last}
      (prior : Captures message events counted middle)
      (offered : recording.offer? place direction middle = some event)
      (captured : recording.capture place direction middle = (after, result, last)) :
      Captures message (events ++ [event])
        (counted + (last.malformedAt place - recording.malformedAt place)) after

/-- A message with an identity that can be read stays as it is, all events have this identity, and
nothing is counted. -/
theorem Message.Captures.of_carries {message final : Message} {events : List Event} {counted : Nat}
    {identity : Causality} (captures : message.Captures events counted final)
    (carries : message.headers.Carries identity) :
    final = message ∧ counted = 0 ∧ ∀ event ∈ events, event.causality = some identity := by
  induction captures with
  | none => exact ⟨rfl, rfl, nofun⟩
  | @capture events counted middle recording place direction event after result last prior offered
      captured ih =>
    obtain ⟨rfl, rfl, same⟩ := ih
    obtain ⟨recorder, here, -⟩ := Option.map_eq_some_iff.1 offered
    obtain ⟨other, unchanged, outcome, later, alsoOffered, alsoCaptured, left⟩ :=
      Recording.captured here direction middle
    cases offered.symm.trans alsoOffered
    cases captured.symm.trans alsoCaptured
    have silent := left.counted
    rw [if_neg carries.not_malformed] at silent
    obtain ⟨event, stays, -⟩ :=
      Recording.capture_of_carries (List.getElem?_eq_some_iff.1 here).1 direction carries
    cases offered.symm.trans event
    rw [captured] at stays
    refine ⟨stays, by omega, fun event among => ?_⟩
    obtain earlier | now := List.mem_append.1 among
    · exact same event earlier
    · cases List.mem_singleton.1 now
      rfl

/-- For any headers, body and addresses, whatever state the channel is in: a sent message goes on
with a readable identity, the one of the event that is pushed, and a received one as it is.  A hook
counts one header exactly if it cannot be read.  A message that was captured when it was sent stays
as it is however often it is captured afterwards, all events have its identity, and nothing more is
counted. -/
theorem Recording.capture_exact {recording : Recording} {place : Nat} {recorder : Recorder}
    (here : recording.recorders[place]? = some recorder) (direction : Direction)
    (message : Message) :
    ∃ event after result last,
      recording.offer? place direction message = some event ∧
      recording.capture place direction message = (after, result, last) ∧
      recording.Captured place recorder direction message event after result last ∧
      (direction = .sent → ∀ events counted final, after.Captures events counted final →
        final = after ∧ counted = 0 ∧ ∀ other ∈ events, other.causality = event.causality) := by
  obtain ⟨event, after, result, last, offered, same, captured⟩ :=
    Recording.captured here direction message
  refine ⟨event, after, result, last, offered, same, captured, fun leaves events counted final
    captures => ?_⟩
  obtain ⟨identity, own, sent⟩ := captured.sent leaves
  rw [own]
  exact captures.of_carries sent.carries

/-- The first of two reserved headers, in whatever case, cannot be read. -/
theorem Recording.capture_exact_unreadable :
    let message : Message := ⟨"a", none, ⟨[("X-BusTrace", ""), ("k", "v"),
      ("x-bustrace", Causality.encode ⟨"m", [], none⟩)]⟩, .empty⟩
    let recording : Recording := { Recording.new (.counting 0) 0 with
      recorders := [.new 1 .dropNewest] }
    recording.recorders[0]? = some (.new 1 .dropNewest) ∧ message.headers.Malformed ∧
      ∃ event after result last,
        recording.capture 0 .sent message = (after, result, last) ∧
        recording.Captured 0 (.new 1 .dropNewest) .sent message event after result last ∧
        last.malformedAt 0 = 1 ∧
        ∀ events counted final, after.Captures events counted final →
          final = after ∧ counted = 0 ∧ ∀ other ∈ events, other.causality = event.causality := by
  intro message recording
  have here : recording.recorders[0]? = some (.new 1 .dropNewest) := rfl
  have malformed : message.headers.Malformed := by decide +kernel
  obtain ⟨event, after, result, last, -, same, captured, later⟩ :=
    Recording.capture_exact here .sent message
  have counted := captured.counted
  rw [if_pos malformed] at counted
  exact ⟨here, malformed, event, after, result, last, same, captured, counted, later rfl⟩

end CausalTrace
