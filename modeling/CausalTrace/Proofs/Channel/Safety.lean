import CausalTrace.Proofs.Channel.Accounts

/-!
# Safety of the channel

Whatever the capacity and the policy, and however calls are interleaved, the state between any two
sections is `Safe`: the queue is bounded, an accepted item is with one receive, with one discard or
in its place in the queue, and the order of acceptance is the order of receipt.  What has been
decided is `Lasting`: no later section takes back an outcome, and the end is the end.
-/

namespace CausalTrace.Channel.Calls

variable {α : Type}

/-! ## What holds between any two sections -/

/-- Whether a call is a push that has returned. -/
def isReturnedPush : Call α → Bool
  | .push _ .accepted | .push _ (.refused _) => true
  | _ => false

/-- What callers can rely on between any two sections. -/
structure Safe (capacity : Nat) (s : Calls α) : Prop where
  bounded : s.channel.queue.length ≤ max capacity 1
  /-- What was accepted are the items of pushes, one for each push. -/
  accepted : (s.accepted.map Prod.fst).Nodup ∧ ∀ place item, (place, item) ∈ s.accepted ↔
    s.calls[place]? = some (.push item .counting) ∨ s.calls[place]? = some (.push item .accepted)
  /-- A refused item is none of those that were accepted. -/
  refused : ∀ place item reason, s.calls[place]? = some (.push item (.refused reason)) →
    place ∉ s.accepted.map Prod.fst
  /-- Each accepted item is with the one receive that took it, and that took nothing else, or with
  a discard that tells how many it threw away, or in its place in the queue. -/
  whereabouts : ∀ (rank push : Nat) (item : α), s.accepted[rank]? = some (push, item) →
    match s.fates[rank]? with
    | some (.received place) =>
      s.fates.count (Fate.received place) = 1 ∧
        (s.calls[place]? = some (.receive (.counting item)) ∨
          s.calls[place]? = some (.receive (.received item)))
    | some (.discarded place) =>
      s.calls[place]? = some (.discard (.counting (s.fates.count (Fate.discarded place)))) ∨
        s.calls[place]? = some (.discard (.done (s.fates.count (Fate.discarded place))))
    | none => s.channel.queue[rank - s.fates.length]? = some item
  /-- Nothing but accepted items has a fate. -/
  fates : s.fates.length + s.channel.queue.length = s.accepted.length
  /-- A receive that has an item took it from the queue. -/
  took : ∀ (place : Nat) (item : α), s.calls[place]? = some (.receive (.counting item)) ∨
    s.calls[place]? = some (.receive (.received item)) → Fate.received place ∈ s.fates
  /-- A discard tells how many items it took from the queue. -/
  threw : ∀ (place count : Nat), s.calls[place]? = some (.discard (.counting count)) ∨
    s.calls[place]? = some (.discard (.done count)) → s.fates.count (Fate.discarded place) = count
  inOrder : s.receipts.Sublist (s.accepted.map Prod.snd)
  suffix : s.channel.queue <:+ s.accepted.map Prod.snd
  /-- A receive that has found the end is right about it. -/
  ended : ∀ place : Nat, s.calls[place]? = some (Call.receive .closed) →
    s.channel.closed = true ∧ s.channel.queue = []
  pushes : s.calls.countP isReturnedPush
    = s.channel.metrics.pushed + s.channel.metrics.dropped + s.channel.metrics.rejected
  /-- Nothing is missing from the counters once all calls have returned. -/
  quiet : (∀ call ∈ s.calls, call.isDone = true) →
    s.channel.metrics.pushed
      = s.channel.metrics.received + s.channel.metrics.discarded + s.channel.queue.length

/-- A push has brought its item in as soon as it was accepted, counted or not. -/
theorem brought?_eq_some_iff {call : Call α} {item : α} :
    call.brought? = some item ↔ call = .push item .counting ∨ call = .push item .accepted := by
  constructor
  · intro brought
    unfold Call.brought? at brought
    split at brought
    next => exact .inl (by rw [Option.some.inj brought])
    next => exact .inr (by rw [Option.some.inj brought])
    next => cases brought
  · rintro (rfl | rfl) <;> rfl

/-- A receive has taken its item as soon as it left the queue, counted or not. -/
theorem took?_eq_some_iff {call : Call α} {item : α} :
    call.took? = some item ↔
      call = .receive (.counting item) ∨ call = .receive (.received item) := by
  constructor
  · intro took
    unfold Call.took? at took
    split at took
    next => exact .inl (by rw [Option.some.inj took])
    next => exact .inr (by rw [Option.some.inj took])
    next => cases took
  · rintro (rfl | rfl) <;> rfl

/-- A discard that has thrown items away tells how many. -/
theorem threwAway_eq_iff {call : Call α} {count : Nat} (some : count ≠ 0)
    (threw : call.threwAway = count) :
    call = .discard (.counting count) ∨ call = .discard (.done count) := by
  subst threw
  unfold Call.threwAway at some ⊢
  split at some
  next => exact .inl rfl
  next => exact .inr rfl
  next => exact absurd rfl some

section Accounts

variable {capacity : Nat} {s : Calls α}

/-- The accepted items are those of the pushes that brought theirs in. -/
theorem Account.accepted_iff (account : Account capacity s) (place : Nat) (item : α) :
    (place, item) ∈ s.accepted ↔ s.calls[place]? = some (.push item .counting) ∨
      s.calls[place]? = some (.push item .accepted) := by
  rw [account.brought, List.getElem?_map]
  cases s.calls[place]? with
  | none => simp
  | some call =>
    simp only [Option.map_some, Option.some.injEq]
    exact brought?_eq_some_iff

/-- What was refused was never accepted. -/
theorem Account.not_refused (account : Account capacity s) {place : Nat} {item : α}
    {reason : Refusal} (refused : s.calls[place]? = some (.push item (.refused reason))) :
    place ∉ s.accepted.map Prod.fst := by
  intro known
  obtain ⟨⟨push, other⟩, pair, same⟩ := List.mem_map.1 known
  have same : push = place := same
  subst same
  rcases (account.accepted_iff push other).1 pair with counting | accepted
  · rw [refused] at counting
    cases counting
  · rw [refused] at accepted
    cases accepted

/-- The receive that an item is with has that item, and has it once. -/
theorem Account.received (account : Account capacity s) {rank push place : Nat} {item : α}
    (accepted : s.accepted[rank]? = some (push, item))
    (received : s.fates[rank]? = some (.received place)) :
    s.fates.count (Fate.received place) = 1 ∧
      (s.calls[place]? = some (.receive (.counting item)) ∨
        s.calls[place]? = some (.receive (.received item))) := by
  obtain ⟨other, taken, known, took⟩ := account.took rank place received
  rw [accepted] at known
  cases known
  have once := account.takenOnce place
  rw [List.getElem?_map] at took once
  cases here : s.calls[place]? with
  | none =>
    rw [here] at took
    cases took
  | some call =>
    rw [here, Option.map_some, Option.some.injEq] at took
    rw [here, Option.map_some, Option.getD_some, Call.share, took] at once
    refine ⟨once, ?_⟩
    rcases took?_eq_some_iff.1 took with rfl | rfl
    · exact .inl rfl
    · exact .inr rfl

/-- The discard that an item is with tells how many items are with it. -/
theorem Account.discarded (account : Account capacity s) {rank place : Nat}
    (discarded : s.fates[rank]? = some (.discarded place)) :
    s.calls[place]? = some (.discard (.counting (s.fates.count (Fate.discarded place)))) ∨
      s.calls[place]? = some (.discard (.done (s.fates.count (Fate.discarded place)))) := by
  have threw := account.thrownAwayOnce place
  have some : s.fates.count (Fate.discarded place) ≠ 0 :=
    Nat.pos_iff_ne_zero.1 (List.count_pos_iff.2 (List.mem_of_getElem? discarded))
  rw [List.getElem?_map] at threw
  cases here : s.calls[place]? with
  | none =>
    rw [here] at threw
    exact absurd threw some
  | some call =>
    rw [here, Option.map_some, Option.getD_some] at threw
    rcases threwAway_eq_iff some threw.symm with known | known
    · exact .inl (congrArg _ known)
    · exact .inr (congrArg _ known)

/-- An item without a fate is in the queue, behind those that were accepted earlier. -/
theorem Account.queued (account : Account capacity s) {rank push : Nat} {item : α}
    (accepted : s.accepted[rank]? = some (push, item)) (waits : s.fates[rank]? = none) :
    s.channel.queue[rank - s.fates.length]? = some item := by
  rw [List.getElem?_eq_none_iff] at waits
  rw [account.queue, List.getElem?_map, List.getElem?_drop, Nat.add_sub_cancel' waits, accepted]
  rfl

/-- A receive that took an item is the fate of one. -/
theorem Account.holder (account : Account capacity s) {place : Nat} {item : α}
    (took : s.calls[place]? = some (.receive (.counting item)) ∨
      s.calls[place]? = some (.receive (.received item))) :
    Fate.received place ∈ s.fates := by
  have once := account.takenOnce place
  have one : s.fates.count (Fate.received place) = 1 := by
    rw [once, List.getElem?_map]
    rcases took with here | here <;> rw [here] <;> rfl
  rw [← List.count_pos_iff, one]
  exact Nat.one_pos

/-- Picking the items of some places keeps their order. -/
theorem filterMap_sublist {pick : Fate → Option α} {fates : List Fate} {items : List α}
    (left : fates.length ≤ items.length)
    (picked : ∀ (rank : Nat) fate, fates[rank]? = some fate →
      pick fate = none ∨ pick fate = items[rank]?) :
    (fates.filterMap pick).Sublist items := by
  induction fates generalizing items with
  | nil => exact List.nil_sublist _
  | cons fate rest ih =>
    cases items with
    | nil => cases left
    | cons item items =>
      have later : (rest.filterMap pick).Sublist items :=
        ih (Nat.le_of_succ_le_succ left) fun rank other known => picked (rank + 1) other known
      rcases picked 0 fate rfl with none | some
      · rw [List.filterMap_cons_none none]
        exact .cons _ later
      · rw [List.filterMap_cons_some some]
        exact .cons_cons _ later

/-- What was received is in the order in which it was accepted. -/
theorem Account.inOrder (account : Account capacity s) :
    s.receipts.Sublist (s.accepted.map Prod.snd) := by
  refine filterMap_sublist (by rw [List.length_map]; exact account.left) fun rank fate known => ?_
  cases fate with
  | discarded place => exact .inl rfl
  | received place =>
    obtain ⟨push, item, accepted, took⟩ := account.took_item known
    refine .inr ?_
    rw [List.getElem?_map, accepted]
    exact took

/-- A call that has returned has counted all that it did. -/
theorem share_of_isDone {call : Call α} (done : call.isDone = true) :
    call.share .brought = call.share .pushed ∧ call.share .taken = call.share .received ∧
      call.share .thrownAway = call.share .discarded := by
  unfold Call.isDone at done
  split at done <;> first | exact ⟨rfl, rfl, rfl⟩ | cases done

/-- Columns to which every call adds the same come to the same. -/
theorem sum_congr {calls : List (Call α)} {first second : Column}
    (same : ∀ call ∈ calls, call.share first = call.share second) :
    sum calls first = sum calls second := by
  induction calls with
  | nil => rfl
  | cons call rest ih =>
    rw [sum, sum, same call (.head _), ih fun other known => same other (.tail _ known)]

/-- Calls that are in one of three columns are as many as the columns come to. -/
theorem countP_eq_sums {counts : Call α → Bool} {first second third : Column}
    (one : ∀ call, (if counts call then 1 else 0)
      = call.share first + call.share second + call.share third) (calls : List (Call α)) :
    calls.countP counts = sum calls first + sum calls second + sum calls third := by
  induction calls with
  | nil => rfl
  | cons call rest ih =>
    rw [List.countP_cons, ih, one, sum, sum, sum]
    omega

/-- Each fate is with a receive or with a discard. -/
theorem length_fates (fates : List Fate) :
    fates.length
      = (fates.filterMap Fate.receiver?).length + (fates.filterMap Fate.discarder?).length := by
  induction fates with
  | nil => rfl
  | cons fate rest ih =>
    cases fate with
    | received place =>
      rw [List.filterMap_cons_some (f := Fate.receiver?) rfl,
        List.filterMap_cons_none (f := Fate.discarder?) rfl, List.length_cons, List.length_cons, ih]
      omega
    | discarded place =>
      rw [List.filterMap_cons_none (f := Fate.receiver?) rfl,
        List.filterMap_cons_some (f := Fate.discarder?) rfl, List.length_cons, List.length_cons, ih]
      omega

/-- What was accepted has met its fate or is in the queue. -/
theorem Account.length_queue (account : Account capacity s) :
    s.fates.length + s.channel.queue.length = s.accepted.length := by
  have left := account.left
  rw [account.queue, List.length_map, List.length_drop]
  omega

/-- When no call is under way the counters agree with the queue, without any correction. -/
theorem Account.quiet (account : Account capacity s)
    (done : ∀ call ∈ s.calls, call.isDone = true) :
    s.channel.metrics.pushed
      = s.channel.metrics.received + s.channel.metrics.discarded + s.channel.queue.length := by
  have pushed : s.accepted.length = s.channel.metrics.pushed := by
    refine (account.totals .brought).trans ?_
    rw [sum_congr fun call known => (share_of_isDone (done call known)).1]
    exact (account.totals .pushed).symm
  have received : (s.fates.filterMap Fate.receiver?).length = s.channel.metrics.received := by
    refine (account.totals .taken).trans ?_
    rw [sum_congr fun call known => (share_of_isDone (done call known)).2.1]
    exact (account.totals .received).symm
  have discarded : (s.fates.filterMap Fate.discarder?).length = s.channel.metrics.discarded := by
    refine (account.totals .thrownAway).trans ?_
    rw [sum_congr fun call known => (share_of_isDone (done call known)).2.2]
    exact (account.totals .discarded).symm
  rw [← pushed, ← received, ← discarded, ← length_fates, account.length_queue]

/-- The account has all that callers can rely on. -/
theorem Account.safe (account : Account capacity s) : Safe capacity s where
  bounded := account.capacity ▸ account.bounded
  accepted := ⟨account.once, account.accepted_iff⟩
  refused _ _ _ := account.not_refused
  whereabouts rank push item accepted := by
    cases fate : s.fates[rank]? with
    | none => exact account.queued accepted fate
    | some fate' =>
      cases fate' with
      | received place => exact account.received accepted fate
      | discarded place => exact account.discarded fate
  fates := account.length_queue
  took _ _ := account.holder
  threw place count told := by
    rw [account.thrownAwayOnce, List.getElem?_map]
    rcases told with here | here <;> rw [here] <;> rfl
  inOrder := account.inOrder
  suffix := by
    rw [account.queue, List.map_drop]
    exact List.drop_suffix _ _
  ended := account.ended
  pushes := by
    have one : ∀ call : Call α, (if isReturnedPush call then 1 else 0)
        = call.share .pushed + call.share .dropped + call.share .rejected := by
      intro call
      rcases call with ⟨item, _ | _ | _ | _ | _ | _⟩ | _ | _ | _ <;> rfl
    rw [countP_eq_sums one, ← account.totals, ← account.totals, ← account.totals]
    rfl
  quiet := account.quiet

end Accounts

/-! ## What no later section changes -/

/-- A push that has not been decided. -/
def isPendingPush : Call α → Bool
  | .push _ .entering | .push _ .waiting => true
  | _ => false

/-- A receive that has not been decided. -/
def isPendingReceive : Call α → Bool
  | .receive .looking | .receive .waiting => true
  | _ => false

/-- What callers can rely on from a state to any later one. -/
structure Lasting (s later : Calls α) : Prop where
  accepted : s.accepted <+: later.accepted
  fates : s.fates <+: later.fates
  returned : ∀ (place : Nat) (call : Call α), s.calls[place]? = some call →
    call.isDone = true → later.calls[place]? = some call
  /-- Nothing is accepted after the end. -/
  closed : s.channel.closed = true →
    later.channel.closed = true ∧ later.accepted = s.accepted
  /-- A push that the end meets undecided has not moved, or has been told of the end. -/
  pending : s.channel.closed = true → ∀ (place : Nat) (item : α) (stage : PushStage),
    s.calls[place]? = some (.push item stage) → isPendingPush (.push item stage) = true →
      later.calls[place]? = some (.push item stage) ∨
        later.calls[place]? = some (.push item (.refused .closed))
  /-- The next section of any push after the end is its last. -/
  refuses : s.channel.closed = true → ∀ (place : Nat) (item : α) (stage : PushStage)
    (after : Calls α), later.calls[place]? = some (.push item stage) →
      isPendingPush (.push item stage) = true → later.Advances place after →
        after.calls[place]? = some (.push item (.refused .closed))
  /-- Once a receive has found the end, every other one finds it in its next section. -/
  ended : Call.receive .closed ∈ s.calls →
    later.channel.closed = true ∧ later.channel.queue = [] ∧
      ∀ (place : Nat) (stage : ReceiveStage α) (after : Calls α),
        later.calls[place]? = some (.receive stage) → isPendingReceive (.receive stage) = true →
          later.Advances place after → after.calls[place]? = some (.receive .closed)

section Later

variable {capacity : Nat} {s after later : Calls α} {place : Nat}

/-- A section turns one call, and that call had not returned. -/
theorem Effect.turned (effect : Effect s place after) :
    ∃ old new, s.calls[place]? = some old ∧ old.isDone = false ∧
      after.calls = s.calls.set place new := by
  cases effect with
  | rejected here pending | dropped here pending | pushWaits here pending
  | accepted here pending | taken here pending | ended here pending
  | receiveWaits here pending | timedOut here pending =>
    exact ⟨_, _, here, by rcases pending with rfl | rfl <;> rfl, rfl⟩
  | pushCounted here | receiveCounted here | closed here | cleared here | discardCounted here =>
    exact ⟨_, _, here, rfl, rfl⟩

/-- A section adds to what was accepted and to the fates, and takes nothing back. -/
theorem Effect.grows (effect : Effect s place after) :
    s.accepted <+: after.accepted ∧ s.fates <+: after.fates := by
  cases effect with
  | accepted => exact ⟨List.prefix_append _ _, List.prefix_refl _⟩
  | taken | cleared => exact ⟨List.prefix_refl _, List.prefix_append _ _⟩
  | _ => exact ⟨List.prefix_refl _, List.prefix_refl _⟩

/-- After the end no push is dropped any more. -/
theorem Effect.dropped_of_closed (effect : Effect s place after)
    (closed : s.channel.closed = true) :
    after.channel.metrics.dropped = s.channel.metrics.dropped := by
  cases effect with
  | dropped _ _ goesOn =>
    rw [closed] at goesOn
    cases goesOn
  | _ => rfl

/-- Behind the end no section accepts anything. -/
theorem Effect.closed_of_closed (effect : Effect s place after)
    (closed : s.channel.closed = true) :
    after.channel.closed = true ∧ after.accepted = s.accepted := by
  cases effect with
  | accepted _ _ goesOn =>
    rw [closed] at goesOn
    cases goesOn
  | closed => exact ⟨rfl, rfl⟩
  | _ => exact ⟨closed, rfl⟩

/-- After the end a section of an undecided push tells it of the end. -/
theorem Effect.refuses (effect : Effect s place after) (closed : s.channel.closed = true)
    {item : α} {stage : PushStage} (here : s.calls[place]? = some (.push item stage))
    (pending : isPendingPush (.push item stage) = true) :
    after.calls[place]? = some (.push item (.refused .closed)) := by
  obtain ⟨known, -⟩ := List.getElem?_eq_some_iff.1 here
  cases effect with
  | rejected push =>
    rw [here] at push
    cases push
    exact List.getElem?_set_self known
  | dropped _ _ goesOn | pushWaits _ _ goesOn | accepted _ _ goesOn =>
    rw [closed] at goesOn
    cases goesOn
  | pushCounted push =>
    rw [here] at push
    cases push
    cases pending
  | taken other | ended other | receiveWaits other | timedOut other | receiveCounted other
  | closed other | cleared other | discardCounted other =>
    rw [here] at other
    cases other

/-- After the end, and with no item left, a section of an undecided receive finds the end. -/
theorem Effect.finds_end (effect : Effect s place after) (closed : s.channel.closed = true)
    (empty : s.channel.queue = []) {stage : ReceiveStage α}
    (here : s.calls[place]? = some (.receive stage))
    (pending : isPendingReceive (Call.receive stage) = true) :
    after.calls[place]? = some (.receive .closed) := by
  obtain ⟨known, -⟩ := List.getElem?_eq_some_iff.1 here
  cases effect with
  | ended => exact List.getElem?_set_self known
  | taken _ _ next =>
    rw [empty] at next
    cases next
  | receiveWaits _ _ goesOn | timedOut _ _ goesOn =>
    rw [closed] at goesOn
    cases goesOn
  | receiveCounted receive =>
    rw [here] at receive
    cases receive
    cases pending
  | rejected other | dropped other | pushWaits other | accepted other | pushCounted other
  | closed other | cleared other | discardCounted other =>
    rw [here] at other
    cases other

/-- A step adds to what was accepted and to the fates, and takes nothing back. -/
theorem Step.grows (step : Step s after) :
    s.accepted <+: after.accepted ∧ s.fates <+: after.fates := by
  cases step with
  | begin => exact ⟨List.prefix_refl _, List.prefix_refl _⟩
  | advance place advanced => exact advanced.effect.grows

/-- Behind the end no step accepts anything. -/
theorem Step.closed_of_closed (step : Step s after) (closed : s.channel.closed = true) :
    after.channel.closed = true ∧ after.accepted = s.accepted := by
  cases step with
  | begin => exact ⟨closed, rfl⟩
  | advance place advanced => exact advanced.effect.closed_of_closed closed

/-- A call stays as it is, unless it is the one that runs a section. -/
theorem Step.stays (step : Step s after) {call : Call α} (here : s.calls[place]? = some call) :
    after.calls[place]? = some call ∨ s.Advances place after ∧ call.isDone = false := by
  obtain ⟨known, -⟩ := List.getElem?_eq_some_iff.1 here
  cases step with
  | begin => exact .inl ((List.getElem?_append_left known).trans here)
  | advance other advanced =>
    obtain ⟨old, new, turned, undone, calls⟩ := advanced.effect.turned
    by_cases same : other = place
    · subst same
      rw [here] at turned
      cases turned
      exact .inr ⟨advanced, undone⟩
    · exact .inl (by rw [calls, List.getElem?_set_ne same, here])

/-- A receive stays a receive. -/
theorem Step.receive_stays (step : Step s after) {stage : ReceiveStage α}
    (here : s.calls[place]? = some (.receive stage)) :
    ∃ later, after.calls[place]? = some (.receive later) := by
  rcases step.stays here with stays | ⟨advanced, -⟩
  · exact ⟨stage, stays⟩
  obtain ⟨known, -⟩ := List.getElem?_eq_some_iff.1 here
  cases advanced.effect with
  | taken | ended | receiveWaits | timedOut | receiveCounted =>
    exact ⟨_, List.getElem?_set_self known⟩
  | rejected other | dropped other | pushWaits other | accepted other | pushCounted other
  | closed other | cleared other | discardCounted other =>
    rw [here] at other
    cases other

/-- Whatever happens, what was accepted and what became of it stays. -/
theorem Leads.grows (further : Leads s later) :
    s.accepted <+: later.accepted ∧ s.fates <+: later.fates := by
  induction further with
  | here => exact ⟨List.prefix_refl _, List.prefix_refl _⟩
  | step _ next ih => exact ⟨ih.1.trans next.grows.1, ih.2.trans next.grows.2⟩

/-- A closed channel stays closed and accepts nothing more, whatever happens. -/
theorem Leads.closed_of_closed (further : Leads s later) (closed : s.channel.closed = true) :
    later.channel.closed = true ∧ later.accepted = s.accepted := by
  induction further with
  | here => exact ⟨closed, rfl⟩
  | step _ next ih =>
    obtain ⟨still, same⟩ := next.closed_of_closed ih.1
    exact ⟨still, same.trans ih.2⟩

/-- A closed channel drops nothing more: a push is rejected, also one that waited. -/
theorem Leads.dropped_of_closed (further : Leads s later) (closed : s.channel.closed = true) :
    later.channel.metrics.dropped = s.channel.metrics.dropped := by
  induction further with
  | here => rfl
  | step prior next ih =>
    refine .trans ?_ ih
    cases next with
    | begin => rfl
    | advance place advanced =>
      exact advanced.effect.dropped_of_closed (prior.closed_of_closed closed).1

/-- A call that has returned has returned for good. -/
theorem Leads.returned (further : Leads s later) {call : Call α}
    (here : s.calls[place]? = some call) (done : call.isDone = true) :
    later.calls[place]? = some call := by
  induction further with
  | here => exact here
  | step _ next ih =>
    rcases next.stays ih with stays | ⟨-, undone⟩
    · exact stays
    · rw [done] at undone
      cases undone

/-- The end tells every push that it meets undecided, and nothing else does. -/
theorem Leads.pending (further : Leads s later) (closed : s.channel.closed = true) {item : α}
    {stage : PushStage} (here : s.calls[place]? = some (.push item stage))
    (pending : isPendingPush (.push item stage) = true) :
    later.calls[place]? = some (.push item stage) ∨
      later.calls[place]? = some (.push item (.refused .closed)) := by
  induction further with
  | here => exact .inl here
  | step prior next ih =>
    rcases ih with unmoved | told
    · rcases next.stays unmoved with stays | ⟨advanced, -⟩
      · exact .inl stays
      · exact .inr (advanced.effect.refuses (prior.closed_of_closed closed).1 unmoved pending)
    · exact .inr (Leads.here.step next |>.returned told rfl)

/-- What holds of calls that have returned holds from then on. -/
theorem Account.lasting (account : Account capacity later) (further : Leads s later) :
    Lasting s later where
  accepted := further.grows.1
  fates := further.grows.2
  returned _ _ := further.returned
  closed := further.closed_of_closed
  pending closed _ _ _ := further.pending closed
  refuses closed _ _ _ _ here pending advanced :=
    advanced.effect.refuses (further.closed_of_closed closed).1 here pending
  ended found := by
    obtain ⟨place, here⟩ := List.mem_iff_getElem?.1 found
    obtain ⟨closed, empty⟩ := account.ended place (further.returned here rfl)
    exact ⟨closed, empty, fun _ _ _ here pending advanced =>
      advanced.effect.finds_end closed empty here pending⟩

end Later

/-- However any number of calls on a new channel are interleaved, the channel is safe between any
two sections, and what has been decided lasts. -/
theorem Leads.safe_and_lasting {capacity : Nat} {policy : Backpressure} {s later : Calls α}
    (leads : Leads (.new capacity policy) s) (further : Leads s later) :
    Safe capacity s ∧ Lasting s later :=
  ⟨leads.account.safe, (leads.trans further).account.lasting further⟩

/-- A channel for one item that has been closed while a second push waited for room. -/
def closedWhileFull : Calls Nat :=
  ⟨⟨1, .block 5, [7], true, ⟨1, 0, 0, 0, 0⟩⟩,
    [.push 7 .accepted, .push 8 .waiting, .close (some 1)], [(0, 7)], []⟩

/-- The push was told of the end, and of two receives one found the item and one the end. -/
def drainedAfterClose : Calls Nat :=
  ⟨⟨1, .block 5, [], true, ⟨1, 0, 1, 1, 0⟩⟩,
    [.push 7 .accepted, .push 8 (.refused .closed), .close (some 1), .receive (.received 7),
      .receive .closed], [(0, 7)], [.received 3]⟩

/-- A channel is closed while it is full and a push waits at it. -/
theorem leads_closedWhileFull : Leads (.new 0 (.block 5)) closedWhileFull :=
  Leads.here
    |>.step (.begin (.push 7))
    |>.step (.advance 0 (.enter rfl))
    |>.step (.begin (.push 8))
    |>.step (.advance 1 (.enter rfl))
    |>.step (.advance 0 (.countPushed rfl))
    |>.step (.begin .close)
    |>.step (.advance 2 (.close rfl))

/-- What was accepted before the end is received after it, then the end is found. -/
theorem leads_drainedAfterClose : Leads closedWhileFull drainedAfterClose :=
  Leads.here
    |>.step (.begin .receive)
    |>.step (.advance 3 (.look rfl))
    |>.step (.advance 1 (.resume false rfl))
    |>.step (.begin .receive)
    |>.step (.advance 4 (.look rfl))
    |>.step (.advance 3 (.countReceived rfl))

/-- A push that waits when its channel is closed is rejected; the item before it is received. -/
theorem Leads.safe_and_lasting_closedWhileFull :
    Leads (.new 0 (.block 5)) closedWhileFull ∧ Leads closedWhileFull drainedAfterClose ∧
      Safe 0 closedWhileFull ∧ Lasting closedWhileFull drainedAfterClose :=
  ⟨leads_closedWhileFull, leads_drainedAfterClose,
    Leads.safe_and_lasting leads_closedWhileFull leads_drainedAfterClose⟩

end CausalTrace.Channel.Calls
