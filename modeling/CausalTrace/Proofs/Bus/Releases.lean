import CausalTrace.Proofs.Bus.Demands

/-!
# Handlers that are let go

A handler that waits for a reply is let go without one when its request has reached nobody, or when
the delivery of its request is dropped.  What it owns is dropped with it, while the register of
waiting handlers is locked.  If a delivery of a request is among that, its drop has to lock the
register once more, which it waits for without end.

So the bus locks itself in exactly one situation: a step lets a handler go that owns the delivery of
a request.  Handlers that own none go as they should, and nothing else on the bus is touched.  A
consumer that passes a request on and leaves the delivery it has to answer to the handler for the
reply gets into the situation as soon as nobody answers.
-/

namespace CausalTrace

namespace Bus

/-- Where dropping a delivery looks for a handler. -/
def awaited (delivery : Delivery) : Option String := delivery.message.reply.filter isReplyAddress

/-- The addresses whose handlers are let go. -/
def Demand.lettingGo : Demand → List String
  | giveUp address => [address]
  | drop deliveries => deliveries.filterMap awaited
  | _ => []

/-- A handler that waits at one of the addresses owns the delivery of a request. -/
def Locks (bus : Bus) (addresses : List String) : Prop :=
  ∃ address ∈ addresses, ∃ waiting, bus.waitingAt address = some waiting ∧
    ∃ delivery ∈ waiting.owned, awaitsReply delivery = true

/-- The bus without the handlers that wait at the addresses. -/
def without (bus : Bus) (addresses : List String) : Bus :=
  { bus with waiting := bus.waiting.filter fun waiting => waiting.address ∉ addresses }

variable {bus after : Bus} {address : String} {addresses : List String}

/-- Nobody waits where handlers were let go; elsewhere those wait who did before. -/
theorem waitingAt_without (bus : Bus) (addresses : List String) (address : String) :
    (bus.without addresses).waitingAt address =
      if address ∈ addresses then none else bus.waitingAt address := by
  simp only [without, waitingAt, List.find?_filter]
  split
  next gone =>
    rw [List.find?_eq_none]
    rintro waiting - here
    simp only [decide_eq_true_eq, beq_iff_eq] at here
    exact here.1 (here.2 ▸ gone)
  next stays =>
    congr 1
    funext waiting
    by_cases here : waiting.address = address
    · simp [here, stays]
    · simp [here]

/-- Handlers can be let go one by one. -/
theorem without_cons (bus : Bus) (address : String) (rest : List String) :
    (bus.without [address]).without rest = bus.without (address :: rest) := by
  simp only [without, List.filter_filter, List.mem_cons, List.not_mem_nil, or_false, not_or]
  congr 2
  funext waiting
  by_cases here : waiting.address = address <;> simp [here]

/-- Letting nobody go changes nothing. -/
theorem without_nil (bus : Bus) : bus.without [] = bus := by
  rw [without, List.filter_eq_self.2]
  simp

/-- Letting go of several locks if the first does, or the others do after it. -/
theorem locks_cons_iff : bus.Locks (address :: addresses) ↔
    bus.Locks [address] ∨ (bus.without [address]).Locks addresses := by
  constructor
  · rintro ⟨other, among, waiting, there, owns⟩
    by_cases same : other = address
    · exact .inl ⟨other, by simp [same], waiting, there, owns⟩
    · refine .inr ⟨other, (List.mem_cons.1 among).resolve_left same, waiting, ?_, owns⟩
      simpa [waitingAt_without, same] using there
  · rintro (⟨other, among, locked⟩ | ⟨other, among, waiting, there, owns⟩)
    · exact ⟨other, List.mem_cons.2 (.inl (List.mem_singleton.1 among)), locked⟩
    · rw [waitingAt_without] at there
      split at there
      · cases there
      · exact ⟨other, List.mem_cons_of_mem _ among, waiting, there, owns⟩

/-! ## One handler after the other -/

/-- Letting one handler go locks the bus if and only if it owns the delivery of a request. -/
theorem release_eq_none_iff : bus.release address = none ↔ bus.Locks [address] := by
  rw [release_eq]
  cases there : bus.waitingAt address with
  | none => simp [Locks, there]
  | some waiting => simp [Locks, there]

/-- Where letting one handler go does not lock, it takes away that handler. -/
theorem release_eq_some (released : bus.release address = some after) :
    after = bus.without [address] := by
  rw [release_eq] at released
  split at released
  · cases released
  · cases released
    simp only [takeWaiting, without]
    congr 1
    apply List.filter_congr
    intro waiting _
    by_cases here : waiting.address = address <;> simp [here]

/-- Letting handlers go locks the bus if and only if one of them owns the delivery of a request. -/
theorem releaseAll_eq_none_iff : addresses.foldlM release bus = none ↔ bus.Locks addresses := by
  induction addresses generalizing bus with
  | nil => simp [Locks]
  | cons address rest ih =>
    rw [List.foldlM_cons, locks_cons_iff, ← release_eq_none_iff]
    cases released : bus.release address with
    | none => simp
    | some middle =>
      rw [← release_eq_some released]
      simpa using ih

/-- Where letting handlers go does not lock, it takes away those handlers. -/
theorem releaseAll_eq_some (released : addresses.foldlM release bus = some after) :
    after = bus.without addresses := by
  induction addresses generalizing bus with
  | nil =>
    cases released
    exact (without_nil _).symm
  | cons address rest ih =>
    rw [List.foldlM_cons] at released
    obtain ⟨middle, first, later⟩ := Option.bind_eq_some_iff.1 released
    rw [ih later, release_eq_some first, without_cons]

/-- Dropping deliveries lets the handlers for their replies go, in order. -/
theorem dropAll_eq (bus : Bus) (deliveries : List Delivery) :
    bus.dropAll deliveries = (deliveries.filterMap awaited).foldlM release bus := by
  rw [dropAll]
  induction deliveries generalizing bus with
  | nil => rfl
  | cons delivery rest ih =>
    have first : bus.drop delivery = (awaited delivery).elim (some bus) bus.release := by
      unfold drop awaited
      cases reply : delivery.message.reply with
      | none => rfl
      | some address => by_cases mark : isReplyAddress address <;> simp [Option.filter, mark]
    rw [List.foldlM_cons, first, List.filterMap_cons]
    cases awaited delivery with
    | none => exact ih bus
    | some address =>
      rw [List.foldlM_cons]
      exact congrArg _ (funext ih)

/-- Dropping deliveries takes the handlers for their replies off the bus. -/
theorem dropAll_eq_some {deliveries : List Delivery}
    (dropped : bus.dropAll deliveries = some after) :
    after = bus.without (deliveries.filterMap awaited) := by
  rw [dropAll_eq] at dropped
  exact releaseAll_eq_some dropped

/-! ## What is demanded -/

/-- A demand cannot be met just when it lets a handler go that owns the delivery of a request. -/
theorem meet_eq_none_iff {demand : Demand} :
    bus.meet demand = none ↔ bus.Locks demand.lettingGo := by
  cases demand with
  | giveUp address => exact release_eq_none_iff
  | drop deliveries =>
    rw [meet, dropAll_eq]
    exact releaseAll_eq_none_iff
  | _ => simp [meet, Locks, Demand.lettingGo]

/-- Handlers that are let go are gone, and nothing else has changed. -/
theorem meet_lettingGo {demand : Demand} (anyone : demand.lettingGo ≠ [])
    (met : bus.meet demand = some after) : after = bus.without demand.lettingGo := by
  cases demand with
  | giveUp address => exact release_eq_some met
  | drop deliveries => exact dropAll_eq_some met
  | _ => exact absurd rfl anyone

end Bus

namespace Traffic

variable {traffic after : Traffic}

/-- The next step lets a handler go that owns the delivery of a request. -/
def LocksUp (traffic : Traffic) : Prop :=
  traffic.stuck = false ∧ traffic.bus.Locks traffic.demand.lettingGo

/-- Only a step that lets somebody go can lock the bus. -/
theorem LocksUp.lettingGo_ne_nil (locks : traffic.LocksUp) : traffic.demand.lettingGo ≠ [] := by
  obtain ⟨-, address, among, -⟩ := locks
  exact List.ne_nil_of_mem among

/-- A bus that has locked itself takes no step. -/
theorem step_of_stuck (stuck : traffic.stuck = true) : traffic.step = none := by
  rw [step, if_pos stuck]

/-- A step locks the bus just when it lets a handler go that owns the delivery of a request. -/
theorem step_stuck_iff (stepped : traffic.step = some after) :
    after.stuck = true ↔ traffic.LocksUp := by
  rw [(step_meets stepped).stuck, Option.isNone_iff_eq_none, Bus.meet_eq_none_iff]
  exact ⟨fun locks => ⟨free_of_step stepped, locks⟩, And.right⟩

/-- Where handlers are to be let go there is a next step. -/
theorem exists_step (free : traffic.stuck = false) (anyone : traffic.demand.lettingGo ≠ []) :
    ∃ after, traffic.step = some after := by
  unfold step
  rw [if_neg (by simp [free])]
  cases running : traffic.running with
  | some running => exact ⟨_, rfl⟩
  | none =>
    cases calls : traffic.calls with
    | nil =>
      rw [demand, running, calls] at anyone
      exact absurd rfl anyone
    | cons call outer =>
      simp only [continue?, calls]
      split <;> exact ⟨_, rfl⟩

/-- A step that does not lock the bus takes the handlers that it lets go off the bus, and changes
nothing else there. -/
theorem step_lettingGo (stepped : traffic.step = some after) (free : after.stuck = false)
    (anyone : traffic.demand.lettingGo ≠ []) :
    after.bus = traffic.bus.without traffic.demand.lettingGo := by
  have meets := step_meets stepped
  cases met : traffic.bus.meet traffic.demand with
  | none =>
    rw [meets.stuck, met] at free
    cases free
  | some bus =>
    rw [meets.bus, met]
    exact Bus.meet_lettingGo anyone met

/-! ## Runs -/

/-- One more step is taken if there is one. -/
theorem run_succ (traffic : Traffic) (limit : Nat) :
    traffic.run (limit + 1) = ((traffic.run limit).step).getD (traffic.run limit) := by
  induction limit generalizing traffic with
  | zero =>
    simp only [run]
    cases traffic.step <;> rfl
  | succ limit ih =>
    rw [run]
    cases stepped : traffic.step with
    | none => simp [run, stepped]
    | some after =>
      have first : traffic.run (limit + 1) = after.run limit := by rw [run, stepped]
      rw [first, ← ih]

/-- A run is stuck if it began so or came to a step that locks. -/
theorem stuck_run_iff (traffic : Traffic) (limit : Nat) :
    (traffic.run limit).stuck = true ↔
      traffic.stuck = true ∨ ∃ earlier < limit, (traffic.run earlier).LocksUp := by
  induction limit with
  | zero => simp [run]
  | succ limit ih =>
    have earlier : (∃ earlier < limit + 1, (traffic.run earlier).LocksUp) ↔
        (∃ earlier < limit, (traffic.run earlier).LocksUp) ∨ (traffic.run limit).LocksUp := by
      simp only [Nat.lt_succ_iff_lt_or_eq, or_and_right, exists_or, exists_eq_left]
    rw [earlier, ← or_assoc, ← ih, run_succ]
    cases stepped : (traffic.run limit).step with
    | none =>
      have unlocked : ¬ (traffic.run limit).LocksUp := by
        intro locks
        obtain ⟨after, another⟩ := exists_step locks.1 locks.lettingGo_ne_nil
        rw [stepped] at another
        cases another
      simp [unlocked]
    | some after =>
      rw [Option.getD_some, step_stuck_iff stepped]
      simp [free_of_step stepped]

/-- What is stuck stays as it is. -/
theorem run_stuck (stuck : traffic.stuck = true) (limit : Nat) : traffic.run limit = traffic := by
  cases limit with
  | zero => rfl
  | succ limit => rw [run, step_of_stuck stuck]

/-- A run can be taken up where it was left. -/
theorem run_add (traffic : Traffic) (first more : Nat) :
    traffic.run (first + more) = (traffic.run first).run more := by
  induction more with
  | zero => rfl
  | succ more ih => rw [← Nat.add_assoc, run_succ, ih, ← run_succ]

/-- A bus locks itself just when a step lets a handler go that owns the delivery of a request, and
then for ever.  Any other step that lets handlers go takes them off the bus, and nothing else. -/
theorem run_locks_or_releases (traffic : Traffic) (limit : Nat) :
    ((traffic.run limit).stuck = true ↔
      traffic.stuck = true ∨ ∃ earlier < limit, (traffic.run earlier).LocksUp) ∧
    ((traffic.run limit).stuck = true → ∀ more, traffic.run (limit + more) = traffic.run limit) ∧
    ((traffic.run (limit + 1)).stuck = false → (traffic.run limit).demand.lettingGo ≠ [] →
      (traffic.run (limit + 1)).bus =
        (traffic.run limit).bus.without (traffic.run limit).demand.lettingGo) := by
  refine ⟨stuck_run_iff traffic limit, ?_, ?_⟩
  · intro stuck more
    rw [run_add, run_stuck stuck]
  · intro unlocked anyone
    rw [run_succ] at unlocked ⊢
    have free : (traffic.run limit).stuck = false := by
      rw [Bool.eq_false_iff]
      intro stuck
      rw [step_of_stuck stuck, Option.getD_none, stuck] at unlocked
      cases unlocked
    obtain ⟨after, stepped⟩ := exists_step free anyone
    rw [stepped] at unlocked ⊢
    exact step_lettingGo stepped unlocked anyone

/-- A consumer passes each request on to an address where nobody is, and leaves the delivery that it
has to answer to the handler for the reply.  Somebody sends it a request. -/
def passingOn : Program :=
  .consume "front" "front"
    (fun delivery => .request ⟨"nobody", .text "", none⟩ "reply" (fun _ => .finish .done)
      [delivery.number] fun _ => .finish .done)
    fun _ => .request ⟨"front", .text "", none⟩ "reply" (fun _ => .finish .done) []
      fun _ => .finish .done

/-- The request that is passed on locks the bus. -/
theorem passingOn_locks :
    (((Traffic.new (.new default 0)).start passingOn).run 5).stuck = true := by
  decide +kernel

end Traffic

end CausalTrace
