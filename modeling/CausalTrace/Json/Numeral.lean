import CausalTrace.Real.Double

/-!
# Number literals

A literal is kept as written: sign, digits before and after the point, exponent.  Whether it is
an integer is decided by its form and not by its value, so `1.0` and `1e0` are not integers.

A literal that is not an integer of 64 bits becomes a double in two roundings: the leading
digits that fit into 64 bits are rounded to a double, which is then multiplied or divided by a
power of ten.  The result may differ in the last place from the nearest double.
-/

namespace CausalTrace.Json

/-- A number literal as written. -/
structure Numeral where
  negative : Bool
  /-- The digits before the point. -/
  whole : List Nat
  /-- The digits after the point; empty when there is no point. -/
  fraction : List Nat
  /-- The sign of the exponent (true for minus) and its size, if there is one. -/
  exponent : Option (Bool × Nat)
  deriving DecidableEq, Repr, Inhabited

/-- What a number literal stands for: an integer of 64 bits with or without sign, or a double. -/
inductive Number where
  | integer (value : Int)
  | real (value : Double)
  deriving DecidableEq, Repr, Inhabited

namespace Numeral

/-- Takes digits as long as the number they form stays below `2 ^ 64`, and returns that number
with the digits left over. -/
def absorb (value : Nat) : List Nat → Nat × List Nat
  | [] => (value, [])
  | d :: rest =>
    if value * 10 + d < 2 ^ 64 then absorb (value * 10 + d) rest else (value, d :: rest)

/-- `10 ^ n` as a machine number. -/
def powerOfTen (n : Nat) : Float :=
  Float.ofScientific 1 false n

/-- A machine number times a power of ten, unless the product is too large. -/
def scale? (x : Float) (exponent : Int) : Option Float :=
  if exponent.natAbs ≤ 308 then
    if 0 ≤ exponent then
      let product := x * powerOfTen exponent.natAbs
      if product.isInf then none else some product
    else some (x / powerOfTen exponent.natAbs)
  else if x == 0 then some x
  else if 0 ≤ exponent then none
  else scale? (x / powerOfTen 308) (exponent + 308)
termination_by exponent.natAbs
decreasing_by omega

/-- The double of an unsigned size given by leading digits and a power of ten. -/
def magnitude? (significand : Nat) (place : Int) : Option (Bool × Nat) → Option Float
  | none => scale? significand.toUInt64.toFloat place
  | some (down, size) =>
    if 2 ^ 31 ≤ size then
      if significand ≠ 0 ∧ !down then none else some 0
    else scale? significand.toUInt64.toFloat (place + if down then -(size : Int) else size)

/-- The number of a literal; none if it is too large for a double. -/
def number? (literal : Numeral) : Option Number :=
  let (head, left) := absorb 0 literal.whole
  let isInteger := left.isEmpty && literal.fraction.isEmpty && literal.exponent.isNone
  if isInteger && !literal.negative then some (.integer head)
  else if isInteger && 0 < head && head ≤ 2 ^ 63 then some (.integer (-(head : Int)))
  else
    let (significand, dropped) := absorb head literal.fraction
    let place : Int := left.length - ((literal.fraction.length - dropped.length : Nat) : Int)
    (magnitude? significand place literal.exponent).map fun x =>
      .real (.ofFloat (if literal.negative then -x else x))

/-- The integer of a literal that is one. -/
def integer? (literal : Numeral) : Option Int :=
  match literal.number? with
  | some (.integer value) => some value
  | _ => none

end Numeral

end CausalTrace.Json
