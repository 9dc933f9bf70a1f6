import CausalTrace.Real.Double

/-!
# The shortest decimal that reads back

The reals that round to a given double form an interval around it.  The shortest decimal is a
point of the coarsest decimal grid that meets this interval; of two such points it is the nearer
one.  If a point of a grid lies in the interval then so does one of the two grid neighbours of
the double itself, so only those two are tested.
-/

namespace CausalTrace.Shortest

/-- The interval that rounds to `significand * 2 ^ exponent`, in quarters of its last place:
lower end, centre and upper end.  Below a power of two the grid of doubles is twice as fine. -/
def quarters (significand : Nat) (exponent : Int) : Nat × Nat × Nat :=
  let below := if significand = 2 ^ 52 ∧ -1074 < exponent then 1 else 2
  (4 * significand - below, 4 * significand, 4 * significand + 2)

/-- The multiple of `10 ^ place` in the interval that is nearest to its centre, if any. -/
def onGrid? (significand : Nat) (exponent place : Int) : Option Nat :=
  let (low, centre, high) := quarters significand exponent
  let scale := 2 ^ (exponent - 2).toNat * 10 ^ (-place).toNat
  let unit := 2 ^ (2 - exponent).toNat * 10 ^ place.toNat
  let inside (k : Nat) : Bool :=
    if significand % 2 = 0 then low * scale ≤ k * unit && k * unit ≤ high * scale
    else low * scale < k * unit && k * unit < high * scale
  let lower := centre * scale / unit
  let upper := lower + 1
  match inside lower, inside upper with
  | true, true =>
    let down := centre * scale - lower * unit
    let up := upper * unit - centre * scale
    if down < up ∨ (down = up ∧ lower % 2 = 0) then some lower else some upper
  | true, false => some lower
  | false, true => some upper
  | false, false => none

/-- Digits and decimal exponent of the shortest decimal of a positive finite number: the number
reads back from `digits * 10 ^ place`.  The first place tried is above the leading digit, and a
double never needs more than seventeen digits. -/
def decimal (significand : Nat) (exponent : Int) : Nat × Int :=
  let top := ((significand.log2 : Int) + exponent + 1) * 30103 / 100000 + 2
  ((List.range 24).findSome? fun (i : Nat) =>
    let place := top - (i : Int)
    (onGrid? significand exponent place).map fun digits => (digits, place)).getD
      (significand, exponent)

end CausalTrace.Shortest
