import CausalTrace.Bus.Registry

/-!
# Pairs of hooks

A recorder sees messages on both sides of the bus, so its two hooks are placed together and
removed together.  Placing a pair that is on the bus already changes nothing, and neither does
removing one that is not.
-/

namespace CausalTrace

/-- The two capture hooks of a recorder. -/
structure HookPair where
  /-- The place of the recorder. -/
  recorder : Nat
  /-- The ids of the outbound and of the inbound hook, while they are on the bus. -/
  ids : Option (Nat × Nat)
  deriving DecidableEq, Repr, Inhabited

namespace HookPair

/-- A pair that is not on the bus yet. -/
def new (recorder : Nat) : HookPair := ⟨recorder, none⟩

/-- Whether the pair is on the bus. -/
def isPlaced (pair : HookPair) : Bool := pair.ids.isSome

/-- Places both hooks, the outbound one first. -/
def place (pair : HookPair) (bus : Bus) : HookPair × Bus :=
  match pair.ids with
  | some _ => (pair, bus)
  | none =>
    let (outbound, bus) := bus.place .outbound (.capture pair.recorder .sent)
    let (inbound, bus) := bus.place .inbound (.capture pair.recorder .received)
    ({ pair with ids := some (outbound, inbound) }, bus)

/-- Removes both hooks. -/
def remove (pair : HookPair) (bus : Bus) : HookPair × Bus :=
  match pair.ids with
  | none => (pair, bus)
  | some (outbound, inbound) =>
    ({ pair with ids := none }, ((bus.remove outbound).2.remove inbound).2)

end HookPair

end CausalTrace
