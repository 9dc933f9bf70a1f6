import CausalTrace.Text.Decimal
import CausalTrace.Text.Utf8

/-!
# Bytes as hexadecimal digits

Bytes that have to stand in a text are written as two hexadecimal digits each.  Digits are
written small and read in either case, so `Hex.decode?` undoes `Hex.encode`.
-/

namespace CausalTrace.Hex

/-- Two digits for each byte, the high one first. -/
def characters (bytes : Bytes) : List Char :=
  bytes.flatMap fun byte =>
    [Decimal.hexDigit (byte.toNat / 16), Decimal.hexDigit (byte.toNat % 16)]

/-- The digits of a byte string. -/
def encode (bytes : Bytes) : String := String.ofList (characters bytes)

/-- The bytes that pairs of digits stand for. -/
def bytes? : List Char → Option Bytes
  | [] => some []
  | [_] => none
  | high :: low :: rest =>
    match Decimal.hexDigit? high, Decimal.hexDigit? low with
    | some high, some low => (bytes? rest).map (UInt8.ofNat (high * 16 + low) :: ·)
    | _, _ => none

/-- The bytes of a text of digits. -/
def decode? (text : String) : Option Bytes := bytes? text.toList

/-- A written digit has the value it was written for. -/
theorem hexDigit?_hexDigit : ∀ n < 16, Decimal.hexDigit? (Decimal.hexDigit n) = some n := by
  decide

/-- Reading the digits of a byte string gives its bytes. -/
theorem decode?_encode (bytes : Bytes) : decode? (encode bytes) = some bytes := by
  have (bytes : Bytes) : bytes? (characters bytes) = some bytes := by
    induction bytes with
    | nil => rfl
    | cons byte rest ih =>
      have high : byte.toNat / 16 < 16 := by
        have := byte.toNat_lt
        omega
      have low : byte.toNat % 16 < 16 := Nat.mod_lt _ (by decide)
      have whole : byte.toNat / 16 * 16 + byte.toNat % 16 = byte.toNat := by omega
      rw [characters, List.flatMap_cons, ← characters]
      simp [bytes?, hexDigit?_hexDigit _ high, hexDigit?_hexDigit _ low, ih, whole]
  simpa [decode?, encode] using this bytes

end CausalTrace.Hex
