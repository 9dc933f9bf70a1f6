import CausalTrace.Proofs.Channel.Calls
import Mathlib.Data.List.Basic

/-!
# What becomes of the items of a channel

Items leave the queue in the order in which they were accepted, and each leaves it once, to one
receive or to one discard.  The counters of a channel lag behind what happened by the calls that
have still to count, and by nothing else.  After the end nothing is accepted, and a receive that
found the end has found it for all that come later.

All of this holds between any two sections of any calls.  `Account` is what each section preserves.
-/

namespace CausalTrace.Channel

variable {α : Type}

/-! ## What calls have done -/

/-- The item that a push brought into the queue. -/
def Call.brought? : Call α → Option α
  | push item .counting | push item .accepted => some item
  | _ => none

/-- The item that a receive took out of the queue. -/
def Call.took? : Call α → Option α
  | receive (.counting item) | receive (.received item) => some item
  | _ => none

/-- How many items a discard took out of the queue. -/
def Call.threwAway : Call α → Nat
  | discard (.counting count) | discard (.done count) => count
  | _ => 0

/-- What is counted about the calls on a channel. -/
inductive Column where
  | pushed
  | dropped
  | rejected
  | received
  | discarded
  | brought
  | taken
  | thrownAway
  deriving DecidableEq, Repr

/-- What a call has added to a column. -/
def Call.share (call : Call α) : Column → Nat
  | .pushed => match call with | push _ .accepted => 1 | _ => 0
  | .dropped => match call with | push _ (.refused .full) => 1 | _ => 0
  | .rejected => match call with | push _ (.refused .closed) => 1 | _ => 0
  | .received => match call with | receive (.received _) => 1 | _ => 0
  | .discarded => match call with | discard (.done count) => count | _ => 0
  | .brought => if call.brought?.isSome then 1 else 0
  | .taken => if call.took?.isSome then 1 else 0
  | .thrownAway => call.threwAway

namespace Calls

/-- What a column has come to. -/
def total (s : Calls α) : Column → Nat
  | .pushed => s.channel.metrics.pushed
  | .dropped => s.channel.metrics.dropped
  | .rejected => s.channel.metrics.rejected
  | .received => s.channel.metrics.received
  | .discarded => s.channel.metrics.discarded
  | .brought => s.accepted.length
  | .taken => (s.fates.filterMap Fate.receiver?).length
  | .thrownAway => (s.fates.filterMap Fate.discarder?).length

/-- What calls have added to a column together. -/
def sum : List (Call α) → Column → Nat
  | [], _ => 0
  | call :: rest, column => call.share column + sum rest column

/-- A new call adds its share to every column. -/
theorem sum_concat (calls : List (Call α)) (call : Call α) (column : Column) :
    sum (calls ++ [call]) column = sum calls column + call.share column := by
  induction calls with
  | nil => exact Nat.add_comm _ _
  | cons first rest ih => rw [List.cons_append, sum, ih, sum, Nat.add_assoc]

section Set

variable {calls : List (Call α)} {place : Nat} {old : Call α}

/-- When a call moves on, its new share takes the place of its old one. -/
theorem sum_set (here : calls[place]? = some old) (new : Call α) (column : Column) :
    sum (calls.set place new) column + old.share column
      = sum calls column + new.share column := by
  induction calls generalizing place with
  | nil => cases here
  | cons first rest ih =>
    cases place with
    | zero =>
      cases here
      rw [List.set_cons_zero, sum, sum]
      omega
    | succ place =>
      have here : rest[place]? = some old := here
      have further := ih here
      rw [List.set_cons_succ, sum, sum]
      omega

/-- What is seen of the calls after one of them has changed. -/
theorem getElem?_map_set {β : Type} (here : calls[place]? = some old) (view : Call α → β)
    (new : Call α) (other : Nat) :
    ((calls.set place new).map view)[other]?
      = if other = place then some (view new) else (calls.map view)[other]? := by
  obtain ⟨known, -⟩ := List.getElem?_eq_some_iff.1 here
  rw [List.getElem?_map, List.getElem?_set, List.getElem?_map]
  by_cases same : other = place
  · rw [if_pos same, if_pos same.symm, if_pos known, Option.map_some]
  · rw [if_neg same, if_neg (Ne.symm same)]

/-- A change that does not show leaves what is seen of the calls. -/
theorem map_set_same {β : Type} (here : calls[place]? = some old) (view : Call α → β)
    {new : Call α} (same : view new = view old) :
    (calls.set place new).map view = calls.map view := by
  refine List.ext_getElem? fun other => ?_
  rw [getElem?_map_set here]
  split
  next there => rw [there, List.getElem?_map, here, Option.map_some, same]
  next => rfl

end Set

/-- What is seen of the calls after one more was begun. -/
theorem getElem?_map_concat {β : Type} (calls : List (Call α)) (view : Call α → β)
    (call : Call α) (other : Nat) :
    ((calls ++ [call]).map view)[other]?
      = if other = calls.length then some (view call) else (calls.map view)[other]? := by
  rw [List.map_append, List.map_singleton]
  split
  next last => rw [last, ← List.length_map (f := view), List.getElem?_concat_length]
  next elsewhere =>
    rcases Nat.lt_or_gt_of_ne elsewhere with before | behind
    · rw [List.getElem?_append_left (by rwa [List.length_map])]
    · rw [List.getElem?_eq_none (by simp; omega), List.getElem?_eq_none (by simp; omega)]

/-! ## The account that every section keeps -/

/-- Where the items are, and how far the calls have come with counting them. -/
structure Account (capacity : Nat) (s : Calls α) : Prop where
  capacity : s.channel.capacity = max capacity 1
  bounded : s.channel.queue.length ≤ s.channel.capacity
  totals : ∀ column, s.total column = sum s.calls column
  left : s.fates.length ≤ s.accepted.length
  /-- The queue holds the last of the accepted items. -/
  queue : s.channel.queue = (s.accepted.drop s.fates.length).map Prod.snd
  once : (s.accepted.map Prod.fst).Nodup
  brought : ∀ (place : Nat) (item : α), (place, item) ∈ s.accepted ↔
    (s.calls.map Call.brought?)[place]? = some (some item)
  took : ∀ rank place : Nat, s.fates[rank]? = some (Fate.received place) →
    ∃ push item, s.accepted[rank]? = some (push, item) ∧
      (s.calls.map Call.took?)[place]? = some (some item)
  takenOnce : ∀ place : Nat, s.fates.count (Fate.received place)
    = ((s.calls.map (Call.share · .taken))[place]?).getD 0
  thrownAwayOnce : ∀ place : Nat, s.fates.count (Fate.discarded place)
    = ((s.calls.map (Call.share · .thrownAway))[place]?).getD 0
  ended : ∀ place : Nat, s.calls[place]? = some (Call.receive .closed) →
    s.channel.closed = true ∧ s.channel.queue = []

/-- The account of a new channel is empty. -/
theorem account_new (capacity : Nat) (policy : Backpressure) :
    Account capacity (new capacity policy : Calls α) where
  capacity := rfl
  bounded := Nat.zero_le _
  totals column := by cases column <;> rfl
  left := Nat.le_refl _
  queue := rfl
  once := .nil
  brought place item := by simp [new]
  took rank place none := by cases none
  takenOnce place := rfl
  thrownAwayOnce place := rfl
  ended place none := by cases none

section Steps

variable {capacity : Nat} {s after : Calls α} {place : Nat} {old new : Call α}
  {channel : Channel α}

/-- A call that begins has added nothing to any column. -/
theorem share_concat {call : Call α} {column : Column} (nothing : call.share column = 0)
    (calls : List (Call α)) (other : Nat) :
    (((calls ++ [call]).map (Call.share · column))[other]?).getD 0
      = ((calls.map (Call.share · column))[other]?).getD 0 := by
  rw [getElem?_map_concat, nothing]
  split
  next last =>
    rw [last, List.getElem?_eq_none (by simp)]
    rfl
  next => rfl

/-- A call that begins has done nothing yet. -/
theorem Account.begin (account : Account capacity s) {call : Call α} (begins : call.Begins) :
    Account capacity (s.begin call) := by
  have nothing : ∀ column, call.share column = 0 := by
    intro column
    cases begins <;> cases column <;> rfl
  exact {
    capacity := account.capacity
    bounded := account.bounded
    totals := fun column => by
      have same : (s.begin call).total column = s.total column := by cases column <;> rfl
      rw [same, account.totals, Calls.begin, sum_concat, nothing]
      rfl
    left := account.left
    queue := account.queue
    once := account.once
    brought := fun other item => by
      have none : call.brought? = none := by cases begins <;> rfl
      rw [Calls.begin, account.brought, getElem?_map_concat, none]
      split
      next last =>
        rw [last, List.getElem?_eq_none (by simp)]
        simp
      next => rfl
    took := fun rank other received => by
      obtain ⟨push, item, accepted, took⟩ := account.took rank other received
      refine ⟨push, item, accepted, ?_⟩
      obtain ⟨known, -⟩ := List.getElem?_eq_some_iff.1 took
      rw [List.length_map] at known
      rw [Calls.begin, getElem?_map_concat, if_neg (by omega), took]
    takenOnce := fun other => by rw [Calls.begin, share_concat (nothing _), account.takenOnce]
    thrownAwayOnce := fun other => by
      rw [Calls.begin, share_concat (nothing _), account.thrownAwayOnce]
    -- A call that has just begun has not found the end.
    ended := fun other closed => by
      refine account.ended other ?_
      rw [Calls.begin, List.getElem?_append] at closed
      split at closed
      next => exact closed
      next =>
        rw [List.getElem?_singleton] at closed
        split at closed
        next =>
          cases closed
          cases begins
        next => cases closed }

/-! What of the account a section keeps when its call turns from `old` to `new`, part by part. -/

/-- The totals are the sums again, if they have moved with the call that moved. -/
theorem Account.totals_set (account : Account capacity s) (here : s.calls[place]? = some old)
    (calls : after.calls = s.calls.set place new)
    (moved : ∀ column, after.total column + old.share column
      = s.total column + new.share column) (column : Column) :
    after.total column = sum after.calls column := by
  have set := sum_set here new column
  have before := account.totals column
  have moved := moved column
  rw [calls]
  omega

/-- A call that moves on without bringing an item leaves the list of accepted items right. -/
theorem Account.brought_set (account : Account capacity s) (here : s.calls[place]? = some old)
    (calls : after.calls = s.calls.set place new) (accepted : after.accepted = s.accepted)
    (same : new.brought? = old.brought?) (other : Nat) (item : α) :
    (other, item) ∈ after.accepted ↔
      (after.calls.map Call.brought?)[other]? = some (some item) := by
  rw [accepted, calls, map_set_same here Call.brought? same]
  exact account.brought other item

/-- What a fate says about the receive it names stays true when a call moves on with its item. -/
theorem Account.took_set (account : Account capacity s) (here : s.calls[place]? = some old)
    {accepted : List (Nat × α)} (further : s.accepted <+: accepted) (new : Call α)
    (same : new.took? = old.took?) (rank other : Nat)
    (received : s.fates[rank]? = some (.received other)) :
    ∃ push item, accepted[rank]? = some (push, item) ∧
      ((s.calls.set place new).map Call.took?)[other]? = some (some item) := by
  obtain ⟨push, item, known, took⟩ := account.took rank other received
  refine ⟨push, item, ?_, ?_⟩
  · obtain ⟨later, rfl⟩ := further
    obtain ⟨early, -⟩ := List.getElem?_eq_some_iff.1 known
    rw [List.getElem?_append_left early, known]
  · rw [map_set_same here Call.took? same, took]

/-- Every receive has as many fates as items, also when a call moves on with its item. -/
theorem Account.takenOnce_set (account : Account capacity s) (here : s.calls[place]? = some old)
    (new : Call α) (same : new.took? = old.took?) (other : Nat) :
    s.fates.count (.received other)
      = (((s.calls.set place new).map (Call.share · .taken))[other]?).getD 0 := by
  have same : new.share .taken = old.share .taken := by rw [Call.share, Call.share, same]
  rw [map_set_same here (Call.share · .taken) same]
  exact account.takenOnce other

/-- Every discard has as many fates as items, also when a call moves on with its number. -/
theorem Account.thrownAwayOnce_set (account : Account capacity s)
    (here : s.calls[place]? = some old) (new : Call α) (same : new.threwAway = old.threwAway)
    (other : Nat) :
    s.fates.count (.discarded other)
      = (((s.calls.set place new).map (Call.share · .thrownAway))[other]?).getD 0 := by
  rw [map_set_same here (Call.share · .thrownAway) same]
  exact account.thrownAwayOnce other

/-- A call may find the end only where the channel is closed and empty, and both stay so. -/
theorem Account.ended_set (account : Account capacity s)
    (calls : after.calls = s.calls.set place new)
    (closed : s.channel.closed = true → after.channel.closed = true)
    (empty : s.channel.closed = true → s.channel.queue = [] → after.channel.queue = [])
    (found : new = .receive .closed → after.channel.closed = true ∧ after.channel.queue = [])
    (other : Nat) (ended : after.calls[other]? = some (.receive .closed)) :
    after.channel.closed = true ∧ after.channel.queue = [] := by
  rw [calls, List.getElem?_set] at ended
  split at ended
  next =>
    split at ended
    next => exact found (Option.some.inj ended)
    next => cases ended
  next =>
    obtain ⟨isClosed, isEmpty⟩ := account.ended other ended
    exact ⟨closed isClosed, empty isClosed isEmpty⟩

/-- A section that moves no item. -/
theorem Account.turn (account : Account capacity s) (here : s.calls[place]? = some old)
    (sameCapacity : channel.capacity = s.channel.capacity)
    (sameQueue : channel.queue = s.channel.queue)
    (closed : s.channel.closed = true → channel.closed = true)
    (brought : new.brought? = old.brought?) (took : new.took? = old.took?)
    (threwAway : new.threwAway = old.threwAway)
    (moved : ∀ column, (s.turn channel place new).total column + old.share column
      = s.total column + new.share column)
    (found : new = .receive .closed → channel.closed = true ∧ channel.queue = []) :
    Account capacity (s.turn channel place new) where
  capacity := sameCapacity.trans account.capacity
  bounded := by
    show channel.queue.length ≤ channel.capacity
    rw [sameQueue, sameCapacity]
    exact account.bounded
  totals := account.totals_set here rfl moved
  left := account.left
  queue := sameQueue.trans account.queue
  once := account.once
  brought := account.brought_set here rfl rfl brought
  took := account.took_set here (List.prefix_refl _) new took
  takenOnce := account.takenOnce_set here new took
  thrownAwayOnce := account.thrownAwayOnce_set here new threwAway
  ended := account.ended_set rfl closed (fun _ empty => sameQueue.trans empty) found

/-- A push finds room. -/
theorem Account.accept (account : Account capacity s) {item : α} {stage : PushStage}
    (here : s.calls[place]? = some (.push item stage))
    (pending : stage = .entering ∨ stage = .waiting) (goesOn : s.channel.closed = false)
    (room : s.channel.isFull = false) :
    Account capacity { s.turn (s.channel.accept item).1 place (.push item .counting) with
      accepted := s.accepted ++ [(place, item)] } := by
  obtain ⟨nothing, noShare⟩ : (Call.push item stage).brought? = none ∧
      ∀ column, (Call.push item stage).share column = 0 := by
    rcases pending with rfl | rfl <;> exact ⟨rfl, fun column => by cases column <;> rfl⟩
  have fresh : ∀ item, (place, item) ∉ s.accepted := by
    intro item known
    rw [account.brought, List.getElem?_map, here, Option.map_some, nothing] at known
    cases known
  exact {
    capacity := account.capacity
    bounded := by
      rw [isFull, decide_eq_false_iff_not] at room
      show (s.channel.queue ++ [item]).length ≤ s.channel.capacity
      rw [List.length_append, List.length_singleton]
      omega
    totals := account.totals_set here rfl fun column => by
      rw [noShare]
      cases column with
      | brought => exact List.length_append
      | _ => rfl
    left := by
      have left := account.left
      show s.fates.length ≤ (s.accepted ++ [(place, item)]).length
      rw [List.length_append]
      omega
    queue := by
      show s.channel.queue ++ [item]
        = ((s.accepted ++ [(place, item)]).drop s.fates.length).map Prod.snd
      rw [List.drop_append_of_le_length account.left, List.map_append, ← account.queue]
      rfl
    once := by
      show ((s.accepted ++ [(place, item)]).map Prod.fst).Nodup
      rw [List.map_append, List.map_singleton, List.nodup_append]
      refine ⟨account.once, List.pairwise_singleton _ _, fun known before last only same => ?_⟩
      obtain ⟨⟨push, item⟩, known, rfl⟩ := List.mem_map.1 before
      rw [List.mem_singleton] at only
      have here : push = place := same.trans only
      exact fresh item (here ▸ known)
    -- The new pair is that of this call, and of no earlier one, as the call had brought nothing.
    brought := fun other another => by
      show (other, another) ∈ s.accepted ++ [(place, item)]
        ↔ ((s.calls.set place (.push item .counting)).map Call.brought?)[other]? = _
      rw [getElem?_map_set here, List.mem_append, List.mem_singleton, Prod.mk.injEq]
      split
      next same =>
        subst same
        simp only [fresh, false_or, true_and, Call.brought?, Option.some.injEq]
        exact eq_comm
      next elsewhere => simp only [elsewhere, false_and, or_false, account.brought]
    took := account.took_set here (List.prefix_append _ _) (.push item .counting) rfl
    takenOnce := account.takenOnce_set here (.push item .counting) rfl
    thrownAwayOnce := account.thrownAwayOnce_set here (.push item .counting) rfl
    ended := account.ended_set rfl id (fun ended => by rw [goesOn] at ended; cases ended) nofun }

/-- The first item of the queue is the first accepted one without a fate. -/
theorem Account.oldest (account : Account capacity s) {first : α} {rest : List α}
    (next : s.channel.queue = first :: rest) :
    (∃ push, s.accepted[s.fates.length]? = some (push, first)) ∧
      s.fates.length + 1 ≤ s.accepted.length ∧
      rest = (s.accepted.drop (s.fates.length + 1)).map Prod.snd := by
  have queue := account.queue
  rw [next, List.map_drop] at queue
  have early : s.fates.length < s.accepted.length := by
    have lengths := congrArg List.length queue
    rw [List.length_cons, List.length_drop, List.length_map] at lengths
    omega
  rw [List.drop_eq_getElem_cons (by rwa [List.length_map])] at queue
  obtain ⟨first, rest⟩ := List.cons.inj queue
  refine ⟨⟨s.accepted[s.fates.length].1, ?_⟩, early, ?_⟩
  · rw [List.getElem?_eq_getElem early, first, List.getElem_map]
  · rw [rest, List.map_drop]

/-- A call that first adds to a column adds a fate for each item. -/
theorem count_set (here : s.calls[place]? = some old) (new : Call α) {fate : Nat → Fate}
    {column : Column} {other : Nat} (own : fate place = fate other → place = other)
    (noShare : old.share column = 0)
    (before : s.fates.count (fate other)
      = ((s.calls.map (Call.share · column))[other]?).getD 0) :
    (s.fates ++ List.replicate (new.share column) (fate place)).count (fate other)
      = (((s.calls.set place new).map (Call.share · column))[other]?).getD 0 := by
  rw [List.count_append, List.count_replicate, before, getElem?_map_set here]
  by_cases same : other = place
  · subst same
    rw [List.getElem?_map, here, Option.map_some, Option.getD_some, noShare, if_pos rfl,
      if_pos (beq_self_eq_true _), Option.getD_some, Nat.zero_add]
  · have differs : (fate place == fate other) = false :=
      beq_eq_false_iff_ne.2 fun equal => same (own equal).symm
    rw [if_neg same, differs]
    rfl

/-- A receive finds an item. -/
theorem Account.take (account : Account capacity s) {stage : ReceiveStage α} {first : α}
    {rest : List α} (here : s.calls[place]? = some (.receive stage))
    (pending : stage = .looking ∨ stage = .waiting) (next : s.channel.queue = first :: rest) :
    Account capacity
      { s.turn { s.channel with queue := rest } place (.receive (.counting first)) with
        fates := s.fates ++ [.received place] } := by
  obtain ⟨nothing, noShare⟩ : (Call.receive stage).took? = none ∧
      ∀ column, (Call.receive stage).share column = 0 := by
    rcases pending with rfl | rfl <;> exact ⟨rfl, fun column => by cases column <;> rfl⟩
  obtain ⟨⟨push, oldest⟩, early, behind⟩ := account.oldest next
  exact {
    capacity := account.capacity
    bounded := by
      have bounded := account.bounded
      rw [next, List.length_cons] at bounded
      exact Nat.le_of_succ_le bounded
    totals := account.totals_set here rfl fun column => by
      rw [noShare]
      cases column with
      | taken =>
        show ((s.fates ++ [Fate.received place]).filterMap Fate.receiver?).length + 0
          = (s.fates.filterMap Fate.receiver?).length + 1
        rw [List.filterMap_append, List.length_append]
        rfl
      | thrownAway =>
        show ((s.fates ++ [Fate.received place]).filterMap Fate.discarder?).length + 0
          = (s.fates.filterMap Fate.discarder?).length + 0
        rw [List.filterMap_append, List.length_append]
        rfl
      | _ => rfl
    left := by
      show (s.fates ++ [Fate.received place]).length ≤ s.accepted.length
      rwa [List.length_append, List.length_singleton]
    queue := by
      show rest = (s.accepted.drop (s.fates ++ [Fate.received place]).length).map Prod.snd
      rw [List.length_append, List.length_singleton, behind]
    once := account.once
    brought := account.brought_set here rfl rfl rfl
    -- The fate at the end is that of this call; its item is the oldest one without a fate.
    took := fun rank other received => by
      show ∃ push item, s.accepted[rank]? = some (push, item) ∧
        ((s.calls.set place (.receive (.counting first))).map Call.took?)[other]? = _
      rw [getElem?_map_set here]
      have received : (s.fates ++ [Fate.received place])[rank]? = some (.received other) := received
      rw [List.getElem?_append] at received
      split at received
      next =>
        obtain ⟨earlier, item, accepted, took⟩ := account.took rank other received
        have elsewhere : other ≠ place := by
          rintro rfl
          rw [List.getElem?_map, here, Option.map_some, nothing] at took
          cases took
        exact ⟨earlier, item, accepted, by rw [if_neg elsewhere, took]⟩
      next behind =>
        obtain ⟨known, same⟩ := List.getElem?_eq_some_iff.1 received
        rw [List.length_singleton] at known
        rw [List.getElem_singleton] at same
        cases same
        have last : rank = s.fates.length := by omega
        exact ⟨push, first, last ▸ oldest, if_pos rfl⟩
    takenOnce := fun other =>
      count_set here (.receive (.counting first)) Fate.received.inj (noShare .taken)
        (account.takenOnce other)
    thrownAwayOnce := fun other => by
      have before := account.thrownAwayOnce_set here (.receive (.counting first)) rfl other
      show (s.fates ++ [Fate.received place]).count (Fate.discarded other) = _
      rw [List.count_append, List.count_singleton, before]
      rfl
    ended := account.ended_set rfl id (fun _ empty => by rw [next] at empty; cases empty) nofun }

/-- A discard empties the queue. -/
theorem Account.clear (account : Account capacity s)
    (here : s.calls[place]? = some (.discard .clearing)) :
    Account capacity
      { s.turn s.channel.clear.1 place (.discard (.counting s.channel.size)) with
        fates := s.fates ++ List.replicate s.channel.size (.discarded place) } := by
  have other : Call.discard (.counting s.channel.size) ≠ (.receive .closed : Call α) := nofun
  have noShare : ∀ column, (Call.discard .clearing : Call α).share column = 0 := by
    intro column
    cases column <;> rfl
  have all : s.fates.length + s.channel.size = s.accepted.length := by
    have left := account.left
    rw [size, account.queue, List.length_map, List.length_drop]
    omega
  exact {
    capacity := account.capacity
    bounded := Nat.zero_le _
    totals := account.totals_set here rfl fun column => by
      rw [noShare]
      cases column with
      | taken =>
        show ((s.fates ++ List.replicate s.channel.size
            (Fate.discarded place)).filterMap Fate.receiver?).length + 0
          = (s.fates.filterMap Fate.receiver?).length + 0
        rw [List.filterMap_append, List.filterMap_replicate_of_none rfl, List.append_nil]
      | thrownAway =>
        show ((s.fates ++ List.replicate s.channel.size
            (Fate.discarded place)).filterMap Fate.discarder?).length + 0
          = (s.fates.filterMap Fate.discarder?).length + s.channel.size
        rw [List.filterMap_append, List.filterMap_replicate_of_some (f := Fate.discarder?) rfl,
          List.length_append, List.length_replicate, Nat.add_zero]
      | _ => rfl
    left := by
      show (s.fates ++ List.replicate s.channel.size (Fate.discarded place)).length
        ≤ s.accepted.length
      rw [List.length_append, List.length_replicate]
      exact Nat.le_of_eq all
    queue := by
      show [] = (s.accepted.drop (s.fates ++ List.replicate s.channel.size
        (Fate.discarded place)).length).map Prod.snd
      rw [List.length_append, List.length_replicate, all, List.drop_length]
      rfl
    once := account.once
    brought := account.brought_set here rfl rfl rfl
    -- None of the fates that are added names a receive.
    took := fun rank other received => by
      have received : (s.fates ++ List.replicate s.channel.size
        (Fate.discarded place))[rank]? = some (.received other) := received
      rw [List.getElem?_append] at received
      split at received
      next =>
        exact account.took_set here (List.prefix_refl _) (.discard (.counting s.channel.size)) rfl
          rank other received
      next =>
        have one := List.eq_of_mem_replicate (List.mem_of_getElem? received)
        cases one
    takenOnce := fun other => by
      show (s.fates ++ List.replicate s.channel.size
        (Fate.discarded place)).count (Fate.received other) = _
      have before := account.takenOnce_set here (.discard (.counting s.channel.size)) rfl other
      rw [List.count_append, List.count_replicate, before]
      rfl
    thrownAwayOnce := fun other =>
      count_set here (.discard (.counting s.channel.size)) Fate.discarded.inj
        (noShare .thrownAway) (account.thrownAwayOnce other)
    ended := account.ended_set rfl id (fun _ _ => rfl) fun same => absurd same other }

/-- What a section can do keeps the account. -/
theorem Account.effect (account : Account capacity s) (effect : Effect s place after) :
    Account capacity after := by
  cases effect with
  | rejected here pending | dropped here pending | pushWaits here pending
  | receiveWaits here pending | timedOut here pending =>
    rcases pending with rfl | rfl <;>
      exact account.turn here rfl rfl id rfl rfl rfl (fun column => by cases column <;> rfl) nofun
  | pushCounted here | receiveCounted here | discardCounted here =>
    exact account.turn here rfl rfl id rfl rfl rfl (fun column => by cases column <;> rfl) nofun
  | accepted here pending goesOn room => exact account.accept here pending goesOn room
  | taken here pending next => exact account.take here pending next
  | ended here pending ended empty =>
    rcases pending with rfl | rfl <;>
      exact account.turn here rfl rfl id rfl rfl rfl (fun column => by cases column <;> rfl)
        fun _ => ⟨ended, empty⟩
  | closed here =>
    exact account.turn here rfl rfl (fun _ => rfl) rfl rfl rfl
      (fun column => by cases column <;> rfl) nofun
  | cleared here => exact account.clear here

/-- Every step of any call keeps the account. -/
theorem Account.step (account : Account capacity s) (step : Step s after) :
    Account capacity after := by
  cases step with
  | begin begins => exact account.begin begins
  | advance place advanced => exact account.effect advanced.effect

/-- The account is right whatever calls were made on a new channel, in any order. -/
theorem Leads.account {policy : Backpressure} (leads : Leads (.new capacity policy) s) :
    Account capacity s := by
  induction leads with
  | here => exact account_new capacity policy
  | step _ next ih => exact ih.step next

/-! ## Receipts -/

/-- The items that have been received, in the order in which they left the queue. -/
def receipts (s : Calls α) : List α :=
  s.fates.filterMap fun fate =>
    fate.receiver?.bind fun place => (s.calls[place]?).bind Call.took?

/-- The item that the call at a place has taken, if it is a receive that has. -/
def held (s : Calls α) (place : Nat) : List α := ((s.calls[place]?).bind Call.took?).toList

/-- What was received can be read off the fates and the calls that they name. -/
theorem receipts_eq (s : Calls α) :
    s.receipts = s.fates.filterMap fun fate =>
      fate.receiver?.bind fun place => ((s.calls.map Call.took?)[place]?).join := by
  refine List.filterMap_congr fun fate _ => ?_
  cases fate with
  | discarded place => rfl
  | received place =>
    show (s.calls[place]?).bind Call.took? = ((s.calls.map Call.took?)[place]?).join
    rw [List.getElem?_map]
    cases s.calls[place]? <;> rfl

/-- A call that begins has not received anything. -/
theorem receipts_begin {call : Call α} (begins : call.Begins) :
    (s.begin call).receipts = s.receipts := by
  have none : call.took? = none := by cases begins <;> rfl
  rw [receipts_eq, receipts_eq]
  refine List.filterMap_congr fun fate _ => ?_
  cases fate with
  | discarded place => rfl
  | received place =>
    show (((s.calls ++ [call]).map Call.took?)[place]?).join
      = ((s.calls.map Call.took?)[place]?).join
    rw [getElem?_map_concat, none]
    split
    next last =>
      rw [last, List.getElem?_eq_none (by simp)]
      rfl
    next => rfl

/-- A section that does not take an item adds no receipt. -/
theorem receipts_set (here : s.calls[place]? = some old)
    (calls : after.calls = s.calls.set place new) (same : new.took? = old.took?)
    {more : List Fate} (fates : after.fates = s.fates ++ more)
    (none : more.filterMap Fate.receiver? = []) : after.receipts = s.receipts := by
  have nothing : (more.filterMap fun fate =>
      fate.receiver?.bind fun place => ((s.calls.map Call.took?)[place]?).join) = [] := by
    rw [← List.filterMap_filterMap, none]
    rfl
  rw [receipts_eq, receipts_eq, calls, fates, map_set_same here Call.took? same,
    List.filterMap_append, nothing, List.append_nil]

/-- A receive that takes an item is the last to have received one. -/
theorem Account.receipts_take (account : Account capacity s) {stage : ReceiveStage α} {first : α}
    (here : s.calls[place]? = some (.receive stage))
    (pending : stage = .looking ∨ stage = .waiting)
    (calls : after.calls = s.calls.set place (.receive (.counting first)))
    (fates : after.fates = s.fates ++ [.received place]) :
    after.receipts = s.receipts ++ [first] := by
  have nothing : (Call.receive stage).took? = none := by rcases pending with rfl | rfl <;> rfl
  obtain ⟨known, -⟩ := List.getElem?_eq_some_iff.1 here
  have last : (after.calls[place]?).bind Call.took? = some first := by
    rw [calls, List.getElem?_set_self known]
    rfl
  rw [receipts, fates, List.filterMap_append]
  congr 1
  · refine List.filterMap_congr fun fate mem => ?_
    cases fate with
    | discarded place => rfl
    | received other =>
      obtain ⟨rank, received⟩ := List.mem_iff_getElem?.1 mem
      obtain ⟨-, item, -, took⟩ := account.took rank other received
      have elsewhere : place ≠ other := by
        rintro rfl
        rw [List.getElem?_map, here, Option.map_some, nothing] at took
        cases took
      show (after.calls[other]?).bind Call.took? = (s.calls[other]?).bind Call.took?
      rw [calls, List.getElem?_set_ne elsewhere]
  · exact List.filterMap_cons_some last

/-- The receive that an item is with has taken that item. -/
theorem Account.took_item (account : Account capacity s) {rank other : Nat}
    (received : s.fates[rank]? = some (.received other)) :
    ∃ push item, s.accepted[rank]? = some (push, item) ∧
      (s.calls[other]?).bind Call.took? = some item := by
  obtain ⟨push, item, accepted, took⟩ := account.took rank other received
  refine ⟨push, item, accepted, ?_⟩
  rw [List.getElem?_map] at took
  cases here : s.calls[other]? with
  | none =>
    rw [here] at took
    cases took
  | some call =>
    rw [here, Option.map_some] at took
    exact Option.some.inj took

/-- Picking items rank by rank takes the first ones. -/
theorem filterMap_eq_take {pick : Fate → Option α} {fates : List Fate} {items : List α}
    (left : fates.length ≤ items.length)
    (picked : ∀ (rank : Nat) fate, fates[rank]? = some fate → pick fate = items[rank]?) :
    fates.filterMap pick = items.take fates.length := by
  induction fates generalizing items with
  | nil => rfl
  | cons fate rest ih =>
    cases items with
    | nil => cases left
    | cons item items =>
      rw [List.filterMap_cons_some (picked 0 fate rfl), List.length_cons, List.take_succ_cons,
        ih (Nat.le_of_succ_le_succ left) fun rank other known => picked (rank + 1) other known]

/-- If no item was thrown away, the first of the accepted items were received. -/
theorem Account.receipts_eq_take (account : Account capacity s)
    (whole : s.fates.filterMap Fate.discarder? = []) :
    s.receipts = (s.accepted.map Prod.snd).take s.fates.length := by
  refine filterMap_eq_take (by rw [List.length_map]; exact account.left) fun rank fate known => ?_
  cases fate with
  | discarded place =>
    have thrown : place ∈ s.fates.filterMap Fate.discarder? :=
      List.mem_filterMap.2 ⟨_, List.mem_of_getElem? known, rfl⟩
    rw [whole] at thrown
    cases thrown
  | received place =>
    obtain ⟨push, item, accepted, took⟩ := account.took_item known
    rw [List.getElem?_map, accepted]
    exact took

/-- There are as many receipts as fates that name a receive. -/
theorem Account.length_receipts (account : Account capacity s) :
    s.receipts.length = (s.fates.filterMap Fate.receiver?).length := by
  rw [receipts, ← List.filterMap_filterMap, List.filterMap_length_eq_length]
  intro place mem
  obtain ⟨fate, known, same⟩ := List.mem_filterMap.1 mem
  cases fate with
  | discarded => cases same
  | received other =>
    cases same
    obtain ⟨rank, received⟩ := List.mem_iff_getElem?.1 known
    obtain ⟨-, item, -, took⟩ := account.took_item received
    show ((s.calls[place]?).bind Call.took?).isSome = true
    rw [took]
    rfl

/-- Either a section adds no receipt, or it is that of a receive that finds an item. -/
theorem Account.receipts_effect (account : Account capacity s) (effect : Effect s place after) :
    after.receipts = s.receipts ∧ after.held place = s.held place ∨
      ∃ stage item, s.calls[place]? = some (.receive stage) ∧ s.held place = [] ∧
        after.held place = [item] ∧ after.receipts = s.receipts ++ [item] := by
  have same : ∀ {old new : Call α} {more : List Fate}, s.calls[place]? = some old →
      after.calls = s.calls.set place new → new.took? = old.took? →
      after.fates = s.fates ++ more → more.filterMap Fate.receiver? = [] →
      after.receipts = s.receipts ∧ after.held place = s.held place := by
    intro old new more here calls same fates none
    obtain ⟨known, -⟩ := List.getElem?_eq_some_iff.1 here
    refine ⟨receipts_set here calls same fates none, ?_⟩
    rw [held, held, calls, List.getElem?_set_self known, here, Option.bind_some, Option.bind_some,
      same]
  cases effect with
  | taken here pending next =>
    obtain ⟨known, -⟩ := List.getElem?_eq_some_iff.1 here
    refine .inr ⟨_, _, here, ?_, ?_, account.receipts_take here pending rfl rfl⟩
    · rw [held, here]
      rcases pending with rfl | rfl <;> rfl
    · show ((s.calls.set place _)[place]?.bind Call.took?).toList = _
      rw [List.getElem?_set_self known]
      rfl
  | cleared here =>
    exact .inl (same here rfl rfl rfl (List.filterMap_replicate_of_none rfl))
  | rejected here | dropped here | pushWaits here | accepted here | pushCounted here
  | receiveCounted here | closed here | discardCounted here =>
    exact .inl (same here rfl rfl (List.append_nil _).symm rfl)
  | ended here pending | receiveWaits here pending | timedOut here pending =>
    rcases pending with rfl | rfl <;>
      exact .inl (same here rfl rfl (List.append_nil _).symm rfl)

end Steps

end Calls

end CausalTrace.Channel
