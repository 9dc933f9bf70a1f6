import CausalTrace.Json.Numeral
import CausalTrace.Text.Decimal

/-!
# Tokens of a document

Reading starts from places: a character, or nothing where a byte of the source belongs to no
character.  Such a byte, like the escape of a lone surrogate, may stand inside a string, but the
string then has no text.  A string without a text can only be stepped over.

`Token.scan?` fails exactly on a malformed token; what may follow what is settled in
`Json.Document`.
-/

namespace CausalTrace.Json

/-- One place of the source. -/
abbrev Place := Option Char

/-- A token; a string holds its text if it has one. -/
inductive Token where
  | openArray
  | closeArray
  | openObject
  | closeObject
  | comma
  | colon
  | null
  | boolean (value : Bool)
  | numeral (literal : Numeral)
  | quoted (text : Option String)
  deriving DecidableEq, Repr, Inhabited

namespace Token

/-- The character of an escape of one letter. -/
def shortEscape? : Char → Option Char
  | '"' => some '"'
  | '\\' => some '\\'
  | '/' => some '/'
  | 'b' => some '\x08'
  | 'f' => some '\x0c'
  | 'n' => some '\n'
  | 'r' => some '\r'
  | 't' => some '\t'
  | _ => none

/-- The value of four hexadecimal digits. -/
def codeUnit? (a b c d : Char) : Option Nat := do
  return (← Decimal.hexDigit? a) * 4096 + (← Decimal.hexDigit? b) * 256
    + (← Decimal.hexDigit? c) * 16 + (← Decimal.hexDigit? d)

/-- Reads a code-unit escape, after its backslash. -/
def unitEscape? : List Place → Option (Nat × List Place)
  | some 'u' :: some a :: some b :: some c :: some d :: rest =>
    (codeUnit? a b c d).map fun unit => (unit, rest)
  | _ => none

/-- The character of a code unit, given what follows its escape.  A high surrogate takes the
low surrogate after it; any other surrogate has no character. -/
def unitChar (unit : Nat) (rest : List Place) : Option Char × List Place :=
  if unit < 0xD800 ∨ 0xDFFF < unit then (some (Char.ofNat unit), rest)
  else
    match rest with
    | some '\\' :: escaped =>
      match unitEscape? escaped with
      | some (low, after) =>
        if unit ≤ 0xDBFF ∧ 0xDC00 ≤ low ∧ low ≤ 0xDFFF then
          (some (Char.ofNat (0x10000 + (unit - 0xD800) * 1024 + (low - 0xDC00))), after)
        else (none, rest)
      | none => (none, rest)
    | _ => (none, rest)

/-- Reads an escape after its backslash: the character it stands for, or nothing for a
lone surrogate. -/
def escape? : List Place → Option (Option Char × List Place)
  | some 'u' :: rest => (unitEscape? (some 'u' :: rest)).map fun (unit, after) =>
    unitChar unit after
  | some c :: rest => (shortEscape? c).map fun meant => (some meant, rest)
  | _ => none

/-- Four hexadecimal digits are taken from the source. -/
theorem unitEscape?_length {source rest : List Place} {unit : Nat}
    (read : unitEscape? source = some (unit, rest)) : rest.length < source.length := by
  unfold unitEscape? at read
  split at read
  · obtain ⟨_, _, found⟩ := Option.map_eq_some_iff.1 read
    cases found
    simp
    omega
  · simp at read

/-- A second half of a pair may be taken too; nothing is put back. -/
theorem unitChar_length (unit : Nat) (rest : List Place) :
    (unitChar unit rest).2.length ≤ rest.length := by
  unfold unitChar
  split
  · simp
  · split
    · split
      · rename_i read
        have shorter := unitEscape?_length read
        split
        · simp
          omega
        · simp
      · simp
    · simp

/-- An escape takes its letter at least. -/
theorem escape?_length {source rest : List Place} {meant : Option Char}
    (read : escape? source = some (meant, rest)) : rest.length < source.length := by
  unfold escape? at read
  split at read
  · obtain ⟨⟨unit, after⟩, escaped, found⟩ := Option.map_eq_some_iff.1 read
    have shorter := unitEscape?_length escaped
    have kept := unitChar_length unit after
    simp only at found
    rw [found] at kept
    simp only at kept
    omega
  · obtain ⟨_, _, found⟩ := Option.map_eq_some_iff.1 read
    cases found
    simp
  · simp at read

/-- Reads a string after its opening quote.  `seen` is what was read so far, backwards, as long
as every place of it had a character. -/
def quoted? (seen : Option (List Char)) (source : List Place) :
    Option (Option String × List Place) :=
  match source with
  | [] => none
  | none :: rest => quoted? none rest
  | some '"' :: rest => some (seen.map fun text => String.ofList text.reverse, rest)
  | some '\\' :: rest =>
    match read : escape? rest with
    | none => none
    | some (meant, after) =>
      have := escape?_length read
      quoted? (seen.bind fun text => meant.map (· :: text)) after
  | some c :: rest => if c < ' ' then none else quoted? (seen.map (c :: ·)) rest
termination_by source.length
decreasing_by all_goals simp_all <;> omega

/-- A quoted text takes its closing quote at least. -/
theorem quoted?_length {seen : Option (List Char)} {source rest : List Place}
    {text : Option String} (read : quoted? seen source = some (text, rest)) :
    rest.length < source.length := by
  fun_induction quoted? seen source with
  | case1 => simp at read
  | case2 seen rest ih => have := ih read; simp; omega
  | case3 => cases read; simp
  | case4 => simp at read
  | case5 seen rest meant after escaped _ ih =>
    have := ih read
    simp
    omega
  | case6 => simp at read
  | case7 seen c rest _ _ _ ih => have := ih read; simp; omega

/-- The run of digits at the head of the source. -/
def digits : List Place → List Nat × List Place
  | some c :: rest =>
    match Decimal.digit? c with
    | some d => let (more, rest) := digits rest; (d :: more, rest)
    | none => ([], some c :: rest)
  | source => ([], source)

/-- Reading digits puts nothing back. -/
theorem digits_length (source : List Place) : (digits source).2.length ≤ source.length := by
  fun_induction digits source with
  | case1 => simp_all; omega
  | case2 => simp
  | case3 => simp

/-- The part of a number literal after its point, if it has one. -/
def fraction? : List Place → Option (List Nat × List Place)
  | some '.' :: rest => if (digits rest).1 = [] then none else some (digits rest)
  | source => some ([], source)

/-- The digits of an exponent after its mark and sign. -/
def power? (down : Bool) (source : List Place) : Option (Option (Bool × Nat) × List Place) :=
  if (digits source).1 = [] then none
  else some (some (down, (digits source).1.foldl (fun value d => value * 10 + d) 0),
    (digits source).2)

/-- The exponent of a number literal, if it has one. -/
def exponent? : List Place → Option (Option (Bool × Nat) × List Place)
  | some 'e' :: some '+' :: rest | some 'E' :: some '+' :: rest => power? false rest
  | some 'e' :: some '-' :: rest | some 'E' :: some '-' :: rest => power? true rest
  | some 'e' :: rest | some 'E' :: rest => power? false rest
  | source => some (none, source)

/-- Reads a number literal after its sign: no leading zero before another digit, at least one
digit in every part that is there. -/
def unsigned? (negative : Bool) (source : List Place) : Option (Numeral × List Place) :=
  let whole := (digits source).1
  if whole = [] ∨ (whole.head? = some 0 ∧ whole.length ≠ 1) then none
  else
    (fraction? (digits source).2).bind fun (fraction, afterFraction) =>
      (exponent? afterFraction).map fun (exponent, rest) =>
        (⟨negative, whole, fraction, exponent⟩, rest)

/-- Where a digit was found, it was taken. -/
theorem digits_length_lt {source : List Place} (found : (digits source).1 ≠ []) :
    (digits source).2.length < source.length := by
  unfold digits at found ⊢
  split
  · split
    · rename_i rest _ _ _
      have := digits_length rest
      simp
      omega
    · rename_i none_found
      simp [none_found] at found
  · simp at found

/-- A fraction may be missing, so it may take nothing. -/
theorem fraction?_length {source rest : List Place} {fraction : List Nat}
    (read : fraction? source = some (fraction, rest)) : rest.length ≤ source.length := by
  unfold fraction? at read
  split at read
  · rename_i after
    split at read
    · simp at read
    · have := digits_length after
      obtain rfl := congrArg Prod.snd (Option.some.inj read)
      simp
      omega
  · cases read
    simp

/-- A power takes its sign and digits, or is refused. -/
theorem power?_length {down : Bool} {source rest : List Place} {power : Option (Bool × Nat)}
    (read : power? down source = some (power, rest)) : rest.length ≤ source.length := by
  unfold power? at read
  split at read
  · simp at read
  · cases read
    exact digits_length source

/-- An exponent may be missing, so it may take nothing. -/
theorem exponent?_length {source rest : List Place} {exponent : Option (Bool × Nat)}
    (read : exponent? source = some (exponent, rest)) : rest.length ≤ source.length := by
  unfold exponent? at read
  split at read <;> grind [→ power?_length]

/-- A numeral takes its first digit at least. -/
theorem unsigned?_length {negative : Bool} {source rest : List Place} {literal : Numeral}
    (read : unsigned? negative source = some (literal, rest)) : rest.length < source.length := by
  unfold unsigned? at read
  simp only at read
  split at read
  · simp at read
  · rename_i wellFormed
    obtain ⟨⟨_, _⟩, point, read⟩ := Option.bind_eq_some_iff.1 read
    obtain ⟨⟨_, _⟩, power, read⟩ := Option.map_eq_some_iff.1 read
    cases read
    have := digits_length_lt fun empty => wellFormed (.inl empty)
    have := fraction?_length point
    have := exponent?_length power
    simp only at *
    omega

/-- Drops a word that stands at the head of the source. -/
def word? : List Char → List Place → Option (List Place)
  | [], source => some source
  | c :: word, some d :: rest => if c = d then word? word rest else none
  | _, _ => none

/-- A word that is found is taken off the source. -/
theorem word?_length {word : List Char} {source rest : List Place}
    (read : word? word source = some rest) : rest.length ≤ source.length := by
  fun_induction word? word source with
  | case1 => cases read; simp
  | case2 c word rest ih => have := ih read; simp; omega
  | case3 => simp at read
  | case4 => simp at read

/-- Reads one token at the head of the source. -/
def next? : List Place → Option (Token × List Place)
  | [] | none :: _ => none
  | some '[' :: rest => some (openArray, rest)
  | some ']' :: rest => some (closeArray, rest)
  | some '\x7b' :: rest => some (openObject, rest)
  | some '\x7d' :: rest => some (closeObject, rest)
  | some ',' :: rest => some (comma, rest)
  | some ':' :: rest => some (colon, rest)
  | some '"' :: rest => (quoted? (some []) rest).map fun (text, after) => (quoted text, after)
  | some 'n' :: rest => (word? ['u', 'l', 'l'] rest).map fun after => (null, after)
  | some 't' :: rest => (word? ['r', 'u', 'e'] rest).map fun after => (boolean true, after)
  | some 'f' :: rest => (word? ['a', 'l', 's', 'e'] rest).map fun after => (boolean false, after)
  | some '-' :: rest => (unsigned? true rest).map fun (literal, after) => (numeral literal, after)
  | source => (unsigned? false source).map fun (literal, after) => (numeral literal, after)

/-- Every token takes something, which is why scanning ends. -/
theorem next?_length {source rest : List Place} {token : Token}
    (read : next? source = some (token, rest)) : rest.length < source.length := by
  unfold next? at read
  split at read <;>
    grind [→ quoted?_length, → word?_length, → unsigned?_length, Option.map_eq_some_iff]

/-- The four characters that may stand between tokens. -/
def isBlank (place : Place) : Bool :=
  place = some ' ' || place = some '\t' || place = some '\n' || place = some '\r'

/-- Reads a whole source into tokens; `found` holds the tokens so far, backwards. -/
def scanFrom? (found : List Token) (source : List Place) : Option (List Token) :=
  match source with
  | [] => some found.reverse
  | place :: rest =>
    if isBlank place then scanFrom? found rest
    else
      match read : next? (place :: rest) with
      | none => none
      | some (token, after) =>
        have := next?_length read
        scanFrom? (token :: found) after
termination_by source.length
decreasing_by all_goals simp_all

/-- The tokens of a source. -/
def scan? (source : List Place) : Option (List Token) :=
  scanFrom? [] source

end Token

end CausalTrace.Json
