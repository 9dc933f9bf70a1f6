import CausalTrace.Proofs.Bus.Demands

/-!
# Hooks come and go on demand

A hook that is placed is the last one on its side, under a number that no hook has had before, and
removing a number leaves all other hooks where they are.  No other demand on the register changes a
hook: at most numbers are given out.
-/

namespace CausalTrace

/-- A bus with the hooks of another one, on which numbers may have been given out since. -/
structure Bus.SameHooks (bus after : Bus) : Prop where
  hooks : ∀ side, after.hooks side = bus.hooks side
  next : bus.next ≤ after.next

/-- Whether hooks are to be changed. -/
def Bus.Demand.changesHooks : Demand → Bool
  | place _ _ => true
  | remove _ => true
  | _ => false

namespace Bus

/-- A hook that is placed stands last on its side, under the next id. -/
theorem hooks_place (bus : Bus) (side other : Side) (hook : Hook) :
    (bus.place side hook).2.hooks other
      = if other = side then bus.hooks other ++ [(bus.next, hook)] else bus.hooks other := by
  cases side <;> cases other <;> rfl

@[simp] theorem next_place (bus : Bus) (side : Side) (hook : Hook) :
    (bus.place side hook).2.next = bus.next + 1 := by
  cases side <;> rfl

/-- Removing an id takes it from either side and leaves the others in order. -/
theorem hooks_remove (bus : Bus) (id : Nat) (side : Side) :
    (bus.remove id).2.hooks side = (bus.hooks side).filter fun entry => entry.1 != id := by
  cases side <;> rfl

@[simp] theorem next_remove (bus : Bus) (id : Nat) : (bus.remove id).2.next = bus.next := rfl

/-! ## What leaves hooks alone -/

variable {bus after : Bus}

/-- Nothing that happens leaves the hooks the same. -/
theorem SameHooks.refl (bus : Bus) : bus.SameHooks bus := ⟨fun _ => rfl, Nat.le_refl _⟩

/-- Hooks that stay twice stay. -/
theorem SameHooks.trans {last : Bus} (first : bus.SameHooks after)
    (second : after.SameHooks last) : bus.SameHooks last :=
  ⟨fun side => (second.hooks side).trans (first.hooks side), Nat.le_trans first.next second.next⟩

/-- A bus that differs neither in its hooks nor in the next number. -/
theorem SameHooks.of_eq (outbound : after.outbound = bus.outbound)
    (inbound : after.inbound = bus.inbound) (next : bus.next ≤ after.next) :
    bus.SameHooks after where
  hooks side := by
    cases side with
    | outbound => exact outbound
    | inbound => exact inbound
  next := next

/-- Finding out who receives a message leaves the hooks alone. -/
theorem sameHooks_reached (bus : Bus) (address : String) (mode : Mode) :
    bus.SameHooks (bus.reached address mode) := by
  unfold reached takeWaiting
  cases bus.waitingAt address with
  | some waiting => exact .of_eq rfl rfl (Nat.le_refl _)
  | none =>
    cases mode with
    | toAll => exact .refl bus
    | toOne =>
      simp only [audience]
      split
      · exact .refl bus
      · exact .of_eq rfl rfl (Nat.le_refl _)

/-- Letting a handler go leaves the hooks alone. -/
theorem sameHooks_release {address : String} (released : bus.release address = some after) :
    bus.SameHooks after := by
  rw [release_eq] at released
  split at released
  · cases released
  · cases released
    exact .of_eq rfl rfl (Nat.le_refl _)

/-- Dropping a delivery leaves the hooks alone. -/
theorem sameHooks_drop {delivery : Delivery} (dropped : bus.drop delivery = some after) :
    bus.SameHooks after := by
  unfold drop at dropped
  split at dropped
  next =>
    split at dropped
    · exact sameHooks_release dropped
    · cases dropped
      exact .refl bus
  next =>
    cases dropped
    exact .refl bus

/-- Dropping deliveries leaves the hooks alone. -/
theorem sameHooks_dropAll {deliveries : List Delivery}
    (dropped : bus.dropAll deliveries = some after) : bus.SameHooks after := by
  induction deliveries generalizing bus with
  | nil =>
    cases dropped
    exact .refl _
  | cons delivery rest ih =>
    rw [dropAll, List.foldlM_cons] at dropped
    obtain ⟨middle, first, later⟩ := Option.bind_eq_some_iff.1 dropped
    exact (sameHooks_drop first).trans (ih later)

/-- A demand that is not about hooks leaves them as they are. -/
theorem sameHooks_meet {demand : Demand} (aside : demand.changesHooks = false)
    (met : bus.meet demand = some after) : bus.SameHooks after := by
  cases demand with
  | place | remove => cases aside
  | giveUp address => exact sameHooks_release met
  | drop deliveries => exact sameHooks_dropAll met
  | nothing =>
    cases met
    exact .refl bus
  | consume | retire =>
    cases met
    exact .of_eq rfl rfl (by first | exact Nat.le_refl _ | exact Nat.le_succ _)
  | reach address mode =>
    cases met
    exact bus.sameHooks_reached address mode
  | ask handler owned address =>
    cases met
    have waits : bus.SameHooks (bus.await handler owned).2 := .of_eq rfl rfl (Nat.le_succ _)
    exact waits.trans (sameHooks_reached _ address .toOne)

end Bus

end CausalTrace
