import CausalTrace.Powers

/-!
# Doubles

A number with a fraction or an exponent is kept as the 64 bits of a binary floating-point
number, so that equality of values is equality of bits and a negative zero stays negative.
`Double.parts` decodes a finite number into an integer times a power of two; everything exact is
said about those two integers.
-/

namespace CausalTrace

/-- A binary floating-point number of 64 bits. -/
structure Double where
  bits : UInt64
  deriving DecidableEq, Repr, Inhabited

namespace Double

/-- The double that a machine number holds. -/
def ofFloat (x : Float) : Double := ⟨x.toBits⟩

/-- The machine number of a double. -/
def toFloat (x : Double) : Float := Float.ofBits x.bits

/-- Whether the sign bit is set. -/
def isNegative (x : Double) : Bool := 2 ^ 63 ≤ x.bits.toNat

/-- The size of a finite number as `significand * 2 ^ exponent`. -/
def parts (x : Double) : Nat × Int :=
  let fraction : Nat := x.bits.toNat % 2 ^ 52
  let biased : Nat := x.bits.toNat / 2 ^ 52 % 2 ^ 11
  if biased = 0 then (fraction, -1074) else (fraction + 2 ^ 52, (biased : Int) - 1075)

end Double

end CausalTrace
