/-!
# Whole numbers as text

Record keys, command-line numbers and listings write whole numbers in decimal.  `Decimal.render`
gives the one canonical spelling; `Decimal.parse?` accepts more spellings than that (leading
zeros, one plus sign), so a number can be looked up under a spelling it was not written in.
-/

namespace CausalTrace.Decimal

/-- The canonical decimal spelling: no sign, no leading zero. -/
def render (n : Nat) : String :=
  String.ofList (Nat.toDigits 10 n)

/-- The value of a decimal digit. -/
def digit? (c : Char) : Option Nat :=
  if '0' ≤ c ∧ c ≤ '9' then some (c.toNat - '0'.toNat) else none

/-- The value of a run of decimal digits, continuing from `value`. -/
def accumulate? (value : Nat) : List Char → Option Nat
  | [] => some value
  | c :: rest => (digit? c).bind fun d => accumulate? (value * 10 + d) rest

/-- The value of a non-empty run of digits. -/
def digits? : List Char → Option Nat
  | [] => none
  | cs => accumulate? 0 cs

/-- The value of a run of decimal digits, continuing from `value`, or `limit` if that is less: a run
of any length is read without a number above ten times the limit. -/
def accumulateUpTo? (limit value : Nat) : List Char → Option Nat
  | [] => some value
  | c :: rest => (digit? c).bind fun d => accumulateUpTo? limit (min (value * 10 + d) limit) rest

/-- Reading up to a limit is reading and then keeping to the limit. -/
theorem accumulateUpTo?_eq (limit value : Nat) (cs : List Char) :
    accumulateUpTo? limit (min value limit) cs = (accumulate? value cs).map (min · limit) := by
  induction cs generalizing value with
  | nil => rfl
  | cons c rest ih =>
    cases found : digit? c with
    | none => simp [accumulateUpTo?, accumulate?, found]
    | some d =>
      have kept : min (min value limit * 10 + d) limit = min (value * 10 + d) limit := by omega
      simp only [accumulateUpTo?, accumulate?, found, Option.bind_some]
      rw [kept, ih]

/-- A number below `limit`: one optional plus sign, then at least one digit. -/
def parse? (limit : Nat) (text : String) : Option Nat :=
  let unsigned := match text.toList with
    | '+' :: rest => rest
    | cs => cs
  match unsigned with
  | [] => none
  | cs => (accumulateUpTo? limit 0 cs).filter (· < limit)

/-- Spelling of an integer: a minus sign before the canonical spelling of its size. -/
def renderInt : Int → String
  | .ofNat n => render n
  | .negSucc n => "-" ++ render (n + 1)

/-- `width` digits at least, filled up with zeros on the left. -/
def padded (width n : Nat) : String :=
  let shown := render n
  String.ofList (List.replicate (width - shown.length) '0') ++ shown

/-- The lower-case hexadecimal digit of a value below sixteen. -/
def hexDigit (n : Nat) : Char :=
  Nat.digitChar n

/-- Lower-case hexadecimal spelling without leading zeros. -/
def renderHex (n : Nat) : String :=
  String.ofList (Nat.toDigits 16 n)

/-- `width` hexadecimal digits at least, filled up with zeros on the left. -/
def paddedHex (width n : Nat) : String :=
  let shown := renderHex n
  String.ofList (List.replicate (width - shown.length) '0') ++ shown

/-- The value of a hexadecimal digit of either case. -/
def hexDigit? (c : Char) : Option Nat :=
  if '0' ≤ c ∧ c ≤ '9' then some (c.toNat - '0'.toNat)
  else if 'a' ≤ c ∧ c ≤ 'f' then some (c.toNat - 'a'.toNat + 10)
  else if 'A' ≤ c ∧ c ≤ 'F' then some (c.toNat - 'A'.toNat + 10)
  else none

end CausalTrace.Decimal
