import CausalTrace.Powers
import CausalTrace.Text.Utf8

/-!
# Checksum of a frame

The 32-bit cyclic redundancy check with the reflected IEEE polynomial.  The register takes one
bit at a time; a step is linear over exclusive or, so the effect of damage on the final register
depends on the damage alone and not on what was damaged.
-/

namespace CausalTrace.Checksum

/-- The polynomial, lowest power in the highest bit. -/
def polynomial : BitVec 32 := 0xEDB88320#32

/-- Takes one bit out of the register. -/
def shift (register : BitVec 32) : BitVec 32 :=
  (register >>> 1) ^^^ (if register.getLsbD 0 then polynomial else 0#32)

/-- Takes eight bits out of the register. -/
def shiftByte (register : BitVec 32) : BitVec 32 :=
  shift (shift (shift (shift (shift (shift (shift (shift register)))))))

/-- Takes in one byte. -/
def absorb (register : BitVec 32) (byte : UInt8) : BitVec 32 :=
  shiftByte (register ^^^ byte.toBitVec.setWidth 32)

/-- The register after a byte string. -/
def run (register : BitVec 32) (bytes : Bytes) : BitVec 32 :=
  bytes.foldl absorb register

/-- The checksum of a byte string: the register starts with all bits set and is
inverted at the end. -/
def crc32 (bytes : Bytes) : Nat :=
  (~~~ run (BitVec.allOnes 32) bytes).toNat

/-- Taking in two byte strings is taking in one after the other. -/
@[simp] theorem run_append (register : BitVec 32) (left right : Bytes) :
    run register (left ++ right) = run (run register left) right := by
  simp [run]

/-- A checksum fits into four bytes. -/
theorem crc32_lt (bytes : Bytes) : crc32 bytes < 2 ^ 32 :=
  BitVec.isLt _

end CausalTrace.Checksum
