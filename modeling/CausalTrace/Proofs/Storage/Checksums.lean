import CausalTrace.Proofs.Storage.Canonical
import Mathlib.Logic.Function.Iterate

/-!
# What the checksum tells apart

Taking in a byte string is linear over exclusive or and loses nothing of the register.  Up to four
bytes fit into the register side by side, so that taking them in is putting them there at once and
shifting them out again.  Damage that is confined to four neighbouring bytes therefore always
changes the checksum, whatever stands in front of it and behind it.
-/

namespace CausalTrace.Checksum

/-! ## The register -/

/-- Shifting by one bit is linear over exclusive or. -/
theorem shift_xor (left right : BitVec 32) :
    shift (left ^^^ right) = shift left ^^^ shift right := by
  simp only [shift, BitVec.ushiftRight_xor_distrib, BitVec.getLsbD_xor]
  cases left.getLsbD 0 <;> cases right.getLsbD 0
  · simp
  · simp [BitVec.xor_assoc]
  · simp [BitVec.xor_assoc, BitVec.xor_comm polynomial]
  · have cancelled (a b c : BitVec 32) : a ^^^ b = a ^^^ c ^^^ (b ^^^ c) := by
      rw [BitVec.xor_assoc, ← BitVec.xor_assoc c, BitVec.xor_comm c, BitVec.xor_assoc b,
        BitVec.xor_self, BitVec.xor_zero]
    simpa using cancelled _ _ _

/-- Shifting by a byte is linear over exclusive or. -/
theorem shiftByte_xor (left right : BitVec 32) :
    shiftByte (left ^^^ right) = shiftByte left ^^^ shiftByte right := by
  simp only [shiftByte, shift_xor]

/-- The highest bit after a step is the bit that was taken out. -/
theorem getLsbD_shift (register : BitVec 32) :
    (shift register).getLsbD 31 = register.getLsbD 0 := by
  have above : register.getLsbD 32 = false := BitVec.getLsbD_of_ge _ _ (by decide)
  have highest : polynomial.getLsbD 31 = true := by decide
  rw [shift, BitVec.getLsbD_xor, BitVec.getLsbD_ushiftRight, above]
  cases register.getLsbD 0 <;> simp [highest]

/-- A step loses nothing. -/
theorem shift_injective : Function.Injective shift := by
  intro left right same
  have lowest : left.getLsbD 0 = right.getLsbD 0 := by
    rw [← getLsbD_shift, ← getLsbD_shift, same]
  rw [shift, shift, lowest, BitVec.xor_left_inj] at same
  refine BitVec.eq_of_getLsbD_eq fun place _ => ?_
  cases place with
  | zero => exact lowest
  | succ place =>
    have bit := congrArg (fun register => register.getLsbD place) same
    simpa only [BitVec.getLsbD_ushiftRight, Nat.add_comm 1] using bit

/-- Shifting by a byte loses nothing, since shifting by one bit does not. -/
theorem shiftByte_injective : Function.Injective shiftByte := fun _ _ same =>
  shift_injective (shift_injective (shift_injective (shift_injective
    (shift_injective (shift_injective (shift_injective (shift_injective same)))))))

/-- Neither does a byte string, whatever it is. -/
theorem run_injective (bytes : Bytes) : Function.Injective (run · bytes) := by
  induction bytes with
  | nil => exact fun _ _ same => same
  | cons byte rest ih =>
    intro left right same
    exact (BitVec.xor_left_inj _).1 (shiftByte_injective (ih same))

/-! ## Up to four bytes -/

/-- A bit that is clear is shifted out and nothing else happens. -/
theorem shift_double {n : Nat} (small : n < 2 ^ 31) :
    shift (.ofNat 32 (2 * n)) = .ofNat 32 n := by
  have clear : (BitVec.ofNat 32 (2 * n)).getLsbD 0 = false := by
    rw [BitVec.getLsbD_ofNat]
    simp
  rw [shift, clear]
  refine BitVec.eq_of_toNat_eq ?_
  simp only [Bool.false_eq_true, if_false, BitVec.xor_zero, BitVec.toNat_ushiftRight,
    BitVec.toNat_ofNat, Nat.shiftRight_eq_div_pow]
  omega

/-- Eight clear bits likewise. -/
theorem shiftByte_shifted {n : Nat} (small : n < 2 ^ 24) :
    shiftByte (.ofNat 32 (256 * n)) = .ofNat 32 n := by
  have doubled : 256 * n = 2 * (2 * (2 * (2 * (2 * (2 * (2 * (2 * n))))))) := by omega
  rw [doubled, shiftByte]
  repeat rw [shift_double (by omega)]

/-- A byte and the bytes above it fill separate bits. -/
theorem ofNat_byte_add (byte : UInt8) (higher : Nat) :
    BitVec.ofNat 32 (byte.toNat + 256 * higher)
      = byte.toBitVec.setWidth 32 ^^^ .ofNat 32 (256 * higher) := by
  refine BitVec.eq_of_getLsbD_eq fun place within => ?_
  have sum := Nat.testBit_two_pow_mul_add higher byte.toNat_lt place
  have shifted := Nat.testBit_two_pow_mul_add higher (show 0 < 2 ^ 8 by decide) place
  rw [Nat.add_comm] at sum
  rw [Nat.add_zero] at shifted
  have low : byte.toBitVec.getLsbD place = byte.toNat.testBit place := rfl
  rw [BitVec.getLsbD_xor, BitVec.getLsbD_setWidth, BitVec.getLsbD_ofNat, BitVec.getLsbD_ofNat, low,
    show 256 = 2 ^ 8 from rfl, sum, shifted]
  by_cases lower : place < 8
  · simp [lower, within]
  · have none : byte.toNat.testBit place = false :=
      Nat.testBit_lt_two_pow (Nat.lt_of_lt_of_le byte.toNat_lt
        (Nat.pow_le_pow_right (by decide) (Nat.le_of_not_lt lower)))
    simp [lower, within, none]

/-- Taking in up to four bytes is laying them over the register and shifting them out. -/
theorem run_short (register : BitVec 32) {bytes : Bytes} (short : bytes.length ≤ 4) :
    run register bytes
      = shiftByte^[bytes.length] (register ^^^ .ofNat 32 (Frame.value bytes)) := by
  induction bytes generalizing register with
  | nil => simp [run, Frame.value]
  | cons byte rest ih =>
    rw [List.length_cons] at short
    have small : Frame.value rest < 2 ^ 24 := by
      calc Frame.value rest < 256 ^ rest.length := Frame.value_lt rest
        _ ≤ 256 ^ 3 := Nat.pow_le_pow_right (by decide) (by omega)
        _ = 2 ^ 24 := by decide
    calc run register (byte :: rest)
        = run (absorb register byte) rest := rfl
      _ = shiftByte^[rest.length] (absorb register byte ^^^ .ofNat 32 (Frame.value rest)) :=
          ih _ (by omega)
      _ = shiftByte^[rest.length]
            (shiftByte (register ^^^ .ofNat 32 (Frame.value (byte :: rest)))) := by
          rw [← shiftByte_shifted small, absorb, ← shiftByte_xor, BitVec.xor_assoc, Frame.value,
            ofNat_byte_add]

/-- Up to four bytes cannot be exchanged for others without changing the register. -/
theorem run_short_ne (register : BitVec 32) {new old : Bytes} (width : new.length = old.length)
    (short : old.length ≤ 4) (differs : new ≠ old) : run register new ≠ run register old := by
  intro same
  rw [run_short register (width ▸ short), run_short register short, width] at same
  have words := (BitVec.xor_right_inj _).1 (shiftByte_injective.iterate _ same)
  have fits (bytes : Bytes) (few : bytes.length ≤ 4) : Frame.value bytes < 2 ^ 32 := by
    calc Frame.value bytes < 256 ^ bytes.length := Frame.value_lt bytes
      _ ≤ 256 ^ 4 := Nat.pow_le_pow_right (by decide) few
      _ = 2 ^ 32 := by decide
  have values := congrArg BitVec.toNat words
  rw [BitVec.toNat_ofNat, BitVec.toNat_ofNat, Nat.mod_eq_of_lt (fits new (width ▸ short)),
    Nat.mod_eq_of_lt (fits old short)] at values
  exact differs (by rw [← Frame.number_value new, ← Frame.number_value old, values, width])

/-- Up to four neighbouring bytes cannot be changed without changing the checksum. -/
theorem crc32_ne {new old : Bytes} (width : new.length = old.length) (short : old.length ≤ 4)
    (differs : new ≠ old) (before rest : Bytes) :
    crc32 (before ++ (new ++ rest)) ≠ crc32 (before ++ (old ++ rest)) := by
  intro same
  have registers := BitVec.not_inj.1 (BitVec.eq_of_toNat_eq same)
  simp only [run_append] at registers
  exact run_short_ne _ width short differs (run_injective rest registers)

/-- The check value that catalogues of such codes list for this one. -/
example : crc32 [49, 50, 51, 52, 53, 54, 55, 56, 57] = 0xCBF43926 := by decide +kernel

end CausalTrace.Checksum
