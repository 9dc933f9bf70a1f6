import CausalTrace.Pipeline
import Mathlib.Logic.Relation

/-!
# What is seen of traffic

Most steps of a bus move its own affairs along.  The others show: a message leaves its sender, a
handler is given a delivery, a program is given an answer.  `Traffic.sight?` tells what the next
step shows, and for each hook that looks at a message what it offers to its recorder.  An event
counts as offered whatever becomes of it: whether a recorder has room is its own affair.

A `Course` is any number of steps of a bus, with whatever other parties do to it in between.  Time
goes on, writers work and channels end without a step of the bus, and pipelines come and go.
-/

namespace CausalTrace

/-! ## What hooks offer -/

/-- The event that a capture hook makes of a message, if there is a recorder for it. -/
def Recording.offer? (recording : Recording) (place : Nat) (direction : Direction)
    (message : Message) : Option Event :=
  (recording.recorders[place]?).map fun _ =>
    let sighting := direction.sight message.headers recording.ids
    ⟨{ message with headers := sighting.headers }.snapshot, sighting.causality, direction,
      recording.clock⟩

/-- Pushes an event at the recorder at a place, which counts what was malformed. -/
def Recording.leave (recording : Recording) (place : Nat) (malformed : Bool) (event : Event) :
    Recording :=
  match recording.recorders[place]? with
  | none => recording
  | some recorder =>
    let (_, recorder, tree) :=
      { recorder with stats := recorder.stats.sighted malformed }.push recording.tree event
    { recording with recorders := recording.recorders.set place recorder, tree := tree }

/-- A capture pushes the event that it offers, once, and no other. -/
theorem Recording.capture_eq_leave (recording : Recording) (place : Nat) (direction : Direction)
    (message : Message) :
    (recording.capture place direction message).2.2 =
      match recording.offer? place direction message with
      | none => recording
      | some event =>
        let sighting := direction.sight message.headers recording.ids
        { recording.leave place sighting.malformed event with ids := sighting.ids } := by
  cases here : recording.recorders[place]? with
  | none => simp only [capture, offer?, here, Option.map_none]
  | some recorder => simp only [capture, offer?, leave, here, Option.map_some]

/-- What a hook offers to its recorder when it looks at a message. -/
def Hook.offer? (hook : Hook) (recording : Recording) (message : Message) : Option Event :=
  match hook with
  | .edit _ _ => none
  | .capture place direction => recording.offer? place direction message

/-- A hook, and what it has offered. -/
abbrev Offer := Hook × Option Event

namespace Traffic

/-- What hooks offer that look at a message one after the other. -/
def offers : List Hook → Message × Traffic → List Offer
  | [], _ => []
  | hook :: rest, state =>
    (hook, hook.offer? state.2.recording state.1) :: offers rest (applyHook state hook)

/-- The hooks on one side, in order. -/
def hooksOn (traffic : Traffic) (side : Side) : List Hook :=
  (traffic.bus.hooks side).map Prod.snd

end Traffic

/-! ## What a step shows -/

/-- What is seen of a step. -/
inductive Sight where
  /-- A message leaves: how it was drafted, how it leaves the hooks, and what they offered. -/
  | sent (draft : Draft) (message : Message) (offers : List Offer)
  /-- A handler is given a delivery. -/
  | handed (who : String) (delivery : Delivery) (offers : List Offer)
  /-- A program learns the id of its new consumer. -/
  | enlisted (id : Nat)
  /-- A program learns whether there was a consumer to be removed. -/
  | retired (found : Bool)
  /-- A sender learns how many deliveries were made. -/
  | reached (count : Nat)
  /-- A program learns how many handlers wait for a reply. -/
  | pending (count : Nat)

namespace Traffic

/-- A draft is sent. -/
def sending (traffic : Traffic) (draft : Draft) (reply : Option String) : Sight :=
  let (message, traffic) := traffic.prepare draft reply
  .sent draft (traffic.applyHooks .outbound message).1
    (offers (traffic.hooksOn .outbound) (message, traffic))

/-- A message is handed to a handler. -/
def handing (traffic : Traffic) (message : Message) (handler : Handler) : Sight :=
  let (hooked, after) := traffic.applyHooks .inbound message
  .handed handler.name ⟨after.delivered, hooked⟩
    (offers (traffic.hooksOn .inbound) (message, traffic))

/-- What a program shows that does the next thing. -/
def asking (traffic : Traffic) (owned : List Delivery) : Program → Option Sight
  | .consume _ _ _ _ => some (.enlisted traffic.bus.next)
  | .retire id _ => some (.retired (traffic.bus.hasConsumer id))
  | .dispatch draft _ _ => some (traffic.sending draft none)
  | .request draft name onReply given _ =>
    let moved := (owned.partition fun delivery => given.contains delivery.number).1
    let (address, bus) := traffic.bus.await ⟨name, onReply⟩ moved
    some ({ traffic with bus := bus }.sending draft (some address))
  | .pending _ => some (.pending traffic.bus.pending)
  | _ => none

/-- What the innermost dispatch shows of the next thing. -/
def continuing (traffic : Traffic) : Option Sight :=
  match traffic.calls with
  | [] => none
  | call :: _ =>
    match call.targets with
    | [] => some (.reached call.count)
    | (handler, _) :: _ => some (traffic.handing call.message handler)

/-- What the next step shows. -/
def sight? (traffic : Traffic) : Option Sight :=
  if traffic.stuck then none
  else
    match traffic.running with
    | some running => traffic.asking running.owned running.program
    | none => traffic.continuing

end Traffic

/-! ## Courses -/

namespace Traffic

/-- Other parties use what they share with the bus: recorders and files change, time goes on,
and ids are drawn. -/
inductive Elapses (before : Traffic) : Traffic → Prop where
  | recording (after : Recording) (source : after.ids.draw = before.recording.ids.draw)
      (drawn : before.recording.ids.drawn ≤ after.ids.drawn) :
      Elapses before { before with recording := after }

/-- Pipelines come and go as well, each with its pair of hooks. -/
inductive Attends (before : Traffic) : Traffic → Prop where
  | elapses {after} (elapsed : Elapses before after) : Attends before after
  | place (pair : HookPair) : Attends before (before.placeHooks pair).2
  | remove (pair : HookPair) : Attends before (before.removeHooks pair).2

/-- So many steps of a bus, taken in states that are fit for it, and what was seen of them, with
what others did in between. -/
inductive Course (others : Traffic → Traffic → Prop) (fit : Traffic → Prop) (start : Traffic) :
    Nat → List Sight → Traffic → Prop where
  | here : Course others fit start 0 [] start
  | meanwhile {count seen traffic after} (prior : Course others fit start count seen traffic)
      (done : others traffic after) : Course others fit start count seen after
  | step {count seen traffic after} (prior : Course others fit start count seen traffic)
      (isFit : fit traffic) (stepped : traffic.step = some after) :
      Course others fit start (count + 1) (seen ++ traffic.sight?.toList) after

namespace Course

variable {others others' : Traffic → Traffic → Prop} {fit : Traffic → Prop}
  {start middle traffic : Traffic} {count more : Nat} {seen further : List Sight}

/-- A course goes on with another one. -/
theorem trans (first : Course others fit start count seen middle)
    (second : Course others fit middle more further traffic) :
    Course others fit start (count + more) (seen ++ further) traffic := by
  induction second with
  | here => simpa using first
  | meanwhile _ done ih => exact .meanwhile ih done
  | step _ isFit stepped ih =>
    rw [← Nat.add_assoc, ← List.append_assoc]
    exact .step ih isFit stepped

/-- Others may do less than they are allowed to. -/
theorem of_others (course : Course others fit start count seen traffic)
    (allowed : ∀ before after, others before after → others' before after) :
    Course others' fit start count seen traffic := by
  induction course with
  | here => exact .here
  | meanwhile _ done ih => exact .meanwhile ih (allowed _ _ done)
  | step _ isFit stepped ih => exact .step ih isFit stepped

/-- A course without a step is what others do. -/
theorem of_zero (course : Course others fit start 0 seen traffic) :
    seen = [] ∧ Relation.ReflTransGen others start traffic := by
  generalize zero : 0 = taken at course
  induction course with
  | here => exact ⟨rfl, .refl⟩
  | meanwhile _ done ih => exact ⟨(ih zero).1, (ih zero).2.tail done⟩
  | step => cases zero

/-- The last step of a course, and what others do after it. -/
theorem last (course : Course others fit start (count + 1) seen traffic) :
    ∃ prior before after, Course others fit start count prior before ∧ fit before ∧
      before.step = some after ∧ seen = prior ++ before.sight?.toList ∧
      Relation.ReflTransGen others after traffic := by
  generalize taken : count + 1 = steps at course
  induction course with
  | here => cases taken
  | meanwhile _ done ih =>
    obtain ⟨prior, before, after, course, isFit, stepped, shown, since⟩ := ih taken
    exact ⟨prior, before, after, course, isFit, stepped, shown, since.tail done⟩
  | step prior isFit stepped =>
    cases taken
    exact ⟨_, _, _, prior, isFit, stepped, rfl, .refl⟩

end Course

/-- How many steps there are to be taken, up to a limit. -/
def steps : Nat → Traffic → Nat
  | 0, _ => 0
  | limit + 1, traffic =>
    match traffic.step with
    | none => 0
    | some after => 1 + steps limit after

/-- What is seen of these steps. -/
def sights : Nat → Traffic → List Sight
  | 0, _ => []
  | limit + 1, traffic =>
    match traffic.step with
    | none => []
    | some after => traffic.sight?.toList ++ sights limit after

/-- A run is a course in which nobody else does anything. -/
theorem course_run (others : Traffic → Traffic → Prop) (fit : Traffic → Prop) (limit : Nat)
    (traffic : Traffic) (fits : ∀ taken < limit, fit (run taken traffic)) :
    Course others fit traffic (traffic.steps limit) (traffic.sights limit)
      (run limit traffic) := by
  induction limit generalizing traffic with
  | zero => exact .here
  | succ limit ih =>
    rw [steps, sights, run]
    cases stepped : traffic.step with
    | none => exact .here
    | some after =>
      have first : Course others fit traffic 1 ([] ++ traffic.sight?.toList) after :=
        .step .here (fits 0 (Nat.succ_pos limit)) stepped
      refine first.trans (ih after fun taken less => ?_)
      have later := fits (taken + 1) (Nat.succ_lt_succ less)
      rwa [run, stepped] at later

end Traffic

end CausalTrace
