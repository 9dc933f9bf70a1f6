import CausalTrace.Text.Utf8

/-!
# Opaque bytes as text

Message bodies that are not text are shown in the standard base-64 alphabet, padded to a
multiple of four characters.
-/

namespace CausalTrace.Base64

/-- The character of a six-bit value. -/
def symbol (n : Nat) : Char :=
  if n < 26 then Char.ofNat ('A'.toNat + n)
  else if n < 52 then Char.ofNat ('a'.toNat + (n - 26))
  else if n < 62 then Char.ofNat ('0'.toNat + (n - 52))
  else if n = 62 then '+' else '/'

/-- Three bytes become four characters; a last group of one or two bytes is padded. -/
def characters : Bytes → List Char
  | a :: b :: c :: rest =>
    let word := a.toNat * 65536 + b.toNat * 256 + c.toNat
    symbol (word / 262144) :: symbol (word / 4096 % 64) :: symbol (word / 64 % 64)
      :: symbol (word % 64) :: characters rest
  | [a, b] =>
    let word := a.toNat * 65536 + b.toNat * 256
    [symbol (word / 262144), symbol (word / 4096 % 64), symbol (word / 64 % 64), '=']
  | [a] =>
    let word := a.toNat * 65536
    [symbol (word / 262144), symbol (word / 4096 % 64), '=', '=']
  | [] => []

/-- The base-64 text of a byte string. -/
def encode (bytes : Bytes) : String :=
  String.ofList (characters bytes)

end CausalTrace.Base64
