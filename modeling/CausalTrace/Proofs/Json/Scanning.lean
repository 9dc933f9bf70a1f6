import CausalTrace.Json.Value
import CausalTrace.Proofs.Text.Figures
import Mathlib.Tactic.SplitIfs

/-!
# Reading written values

A value without doubles is read back from its compact text as the document that it was written
from.  The proof goes in the two steps of the reader.  Scanning the text gives the tokens of the
value, whatever follows it, as long as what follows cannot make a number longer.  The builder turns
those tokens into the document, whatever containers are open around it.
-/

namespace CausalTrace.Json

/-! ## Numbers -/

/-- The literal that an integer is written as. -/
def Numeral.ofInt (value : Int) : Numeral :=
  ⟨decide (value < 0), Decimal.figures value.natAbs, [], none⟩

namespace Numeral

/-- More figures never make a number smaller. -/
theorem le_foldl_figures (row : List Nat) (value : Nat) :
    value ≤ row.foldl (fun value figure => value * 10 + figure) value := by
  induction row generalizing value with
  | nil => exact Nat.le_refl _
  | cons figure rest ih =>
    have := ih (value * 10 + figure)
    rw [List.foldl_cons]
    omega

/-- Digits whose number has 64 bits are all taken. -/
theorem absorb_eq {row : List Nat} {value : Nat}
    (small : row.foldl (fun value figure => value * 10 + figure) value < 2 ^ 64) :
    absorb value row = (row.foldl (fun value figure => value * 10 + figure) value, []) := by
  induction row generalizing value with
  | nil => rfl
  | cons figure rest ih =>
    rw [List.foldl_cons] at small ⊢
    have := le_foldl_figures rest (value * 10 + figure)
    rw [absorb, if_pos (by omega), ih small]

/-- An integer of 64 bits, with or without sign, is what its literal stands for. -/
theorem integer?_ofInt {value : Int} (low : -2 ^ 63 ≤ value) (high : value < 2 ^ 64) :
    (ofInt value).integer? = some value := by
  have total : absorb 0 (Decimal.figures value.natAbs) = (value.natAbs, []) := by
    have small : Decimal.total (Decimal.figures value.natAbs) < 2 ^ 64 := by
      rw [Decimal.total_figures]
      omega
    rw [absorb_eq small]
    exact congrArg (·, []) (Decimal.total_figures _)
  rcases Int.lt_or_le value 0 with negative | positive
  · have size : 0 < value.natAbs ∧ value.natAbs ≤ 2 ^ 63 := by omega
    have same : -(value.natAbs : Int) = value := by omega
    simp only [integer?, number?, ofInt, negative, decide_true, total, List.isEmpty_nil,
      Bool.and_self, Option.isNone_none, Bool.not_true, Bool.and_false, Bool.false_eq_true,
      if_false, size, same, if_true]
  · have same : (value.natAbs : Int) = value := by omega
    simp only [integer?, number?, ofInt, Int.not_lt.2 positive, decide_false, total,
      List.isEmpty_nil, Bool.and_self, Option.isNone_none, Bool.not_false, if_true, same]

end Numeral

/-! ## Tokens -/

namespace Token

/-- What may follow a number without making it longer. -/
def Ends (rest : List Place) : Prop :=
  ∀ c after, rest = some c :: after → Decimal.digit? c = none ∧ c ≠ '.' ∧ c ≠ 'e' ∧ c ≠ 'E'

/-- Nothing follows a numeral at the end of the text. -/
theorem ends_nil : Ends [] := by
  intro c after same
  cases same

/-- Digits that were written are read back up to where the numeral ends. -/
theorem digits_figures {row : List Nat} (small : ∀ figure ∈ row, figure < 10)
    {rest : List Place} (ends : Ends rest) :
    digits ((row.map Nat.digitChar).map some ++ rest) = (row, rest) := by
  induction row with
  | nil =>
    rw [List.map_nil, List.map_nil, List.nil_append]
    unfold digits
    split
    · rename_i c after
      rw [(ends c after rfl).1]
    · rfl
  | cons figure others ih =>
    have first := Decimal.digit?_digitChar figure (small figure (by simp))
    have later := ih fun other present => small other (by simp [present])
    simp only [List.map_cons, List.cons_append, digits, first, later]

/-- Where a numeral ends there is no fraction. -/
theorem fraction?_of_ends {rest : List Place} (ends : Ends rest) :
    fraction? rest = some ([], rest) := by
  unfold fraction?
  split
  · rename_i after
    exact absurd rfl (ends '.' after rfl).2.1
  · rfl

/-- Where a numeral ends there is no exponent. -/
theorem exponent?_of_ends {rest : List Place} (ends : Ends rest) :
    exponent? rest = some (none, rest) := by
  unfold exponent?
  split
  all_goals first
    | rfl
    | exact absurd rfl (ends _ _ rfl).2.2.1
    | exact absurd rfl (ends _ _ rfl).2.2.2

/-- A canonical spelling is read as the literal of its figures. -/
theorem unsigned?_render (negative : Bool) (n : Nat) {rest : List Place} (ends : Ends rest) :
    unsigned? negative ((Decimal.render n).toList.map some ++ rest)
      = some (⟨negative, Decimal.figures n, [], none⟩, rest) := by
  have read := digits_figures (fun _ => Decimal.lt_ten_of_mem_figures (n := n)) ends
  have wellFormed : ¬(Decimal.figures n = [] ∨
      ((Decimal.figures n).head? = some 0 ∧ (Decimal.figures n).length ≠ 1)) := by
    rintro (empty | ⟨zero, long⟩)
    · exact Decimal.figures_ne_nil n empty
    · exact long (Decimal.length_figures_of_head_zero zero)
  rw [unsigned?, Decimal.toList_render, read]
  simp [wellFormed, fraction?_of_ends ends, exponent?_of_ends ends]

/-- A digit starts a number and nothing else. -/
theorem next?_of_digit {c : Char} {rest : List Place} (digit : Decimal.digit? c ≠ none) :
    next? (some c :: rest) =
      (unsigned? false (some c :: rest)).map fun (literal, after) => (numeral literal, after) := by
  unfold next?
  split <;> simp_all <;> first | rfl | exact absurd rfl digit

/-- The next token of a whole number that was written out is this number. -/
theorem next?_renderInt (value : Int) {rest : List Place} (ends : Ends rest) :
    next? ((Decimal.renderInt value).toList.map some ++ rest)
      = some (numeral (.ofInt value), rest) := by
  cases value with
  | ofNat n =>
    obtain ⟨figure, others, small, spelled⟩ := Decimal.exists_toList_render n
    have digit : Decimal.digit? figure.digitChar ≠ none := by
      simp [Decimal.digit?_digitChar figure small]
    have read := unsigned?_render false n ends
    simp only [Decimal.renderInt]
    rw [spelled, List.map_cons, List.cons_append] at read ⊢
    rw [next?_of_digit digit, read]
    rfl
  | negSucc n =>
    have read := unsigned?_render true (n + 1) ends
    simp only [Decimal.renderInt, String.toList_append]
    simp [next?, read, Numeral.ofInt]

/-! ### Strings -/

/-- The closing quote ends a text with all that was seen of it. -/
theorem quoted?_close (seen : List Char) (rest : List Place) :
    quoted? (some seen) (some '"' :: rest) = some (some (String.ofList seen.reverse), rest) := by
  rw [quoted?]
  rfl

/-- An escape adds the character that it means to what was seen. -/
theorem quoted?_escape {seen : List Char} {c : Char} {source rest : List Place}
    (read : escape? source = some (some c, rest)) :
    quoted? (some seen) (some '\\' :: source) = quoted? (some (c :: seen)) rest := by
  rw [quoted?]
  split <;> simp_all

/-- A character that needs no escape stands for itself. -/
theorem quoted?_plain {seen : List Char} {c : Char} {rest : List Place}
    (quote : c ≠ '"') (backslash : c ≠ '\\') (printable : ¬c < ' ') :
    quoted? (some seen) (some c :: rest) = quoted? (some (c :: seen)) rest := by
  rw [quoted?, if_neg printable]
  · rfl
  · exact quote
  · exact backslash

/-- A control character without a short escape is read from its code. -/
theorem escape?_hexPair {c : Char} (control : c.toNat < 0x20) (rest : List Place) :
    escape? (some 'u' :: some '0' :: some '0' :: ((Value.hexPair c.toNat).map some ++ rest))
      = some (some c, rest) := by
  have code : ∀ n < 0x20, codeUnit? '0' '0' (Nat.digitChar (n / 16)) (Nat.digitChar (n % 16))
      = some n := by decide
  have unit : unitChar c.toNat rest = (some c, rest) := by
    unfold unitChar
    rw [if_pos (by omega), Char.ofNat_toNat]
  simp only [escape?, unitEscape?, Value.hexPair, Decimal.hexDigit, List.map_cons, List.map_nil,
    List.cons_append, List.nil_append, code _ control, Option.map_some, unit]

/-- What a character is written as is read as that character. -/
theorem quoted?_written (seen : List Char) (c : Char) (rest : List Place) :
    quoted? (some seen) ((Value.escape c).map some ++ rest) = quoted? (some (c :: seen)) rest := by
  unfold Value.escape
  split_ifs with quote backslash backspace feed newline return_ tab control
  · subst quote; exact quoted?_escape rfl
  · subst backslash; exact quoted?_escape rfl
  · subst backspace; exact quoted?_escape rfl
  · subst feed; exact quoted?_escape rfl
  · subst newline; exact quoted?_escape rfl
  · subst return_; exact quoted?_escape rfl
  · subst tab; exact quoted?_escape rfl
  · exact quoted?_escape (escape?_hexPair control rest)
  · refine quoted?_plain quote backslash fun blank => control ?_
    exact Nat.lt_of_lt_of_eq (Char.lt_def.1 blank) rfl

/-- Escaped characters are read back as themselves, up to the closing quote. -/
theorem quoted?_flatMap (text seen : List Char) (rest : List Place) :
    quoted? (some seen) ((text.flatMap Value.escape).map some ++ some '"' :: rest)
      = some (some (String.ofList (seen.reverse ++ text)), rest) := by
  induction text generalizing seen with
  | nil => simpa using quoted?_close seen rest
  | cons c others ih =>
    rw [List.flatMap_cons, List.map_append, List.append_assoc, quoted?_written, ih]
    simp

/-- The next token of a quoted text is this text. -/
theorem next?_quote (text : String) (rest : List Place) :
    next? ((Value.quote text).map some ++ rest) = some (quoted (some text), rest) := by
  have read := quoted?_flatMap text.toList [] rest
  simp [Value.quote, next?, read]

/-! ### Runs of tokens -/

/-- A text is scanned into tokens, whatever may follow a number. -/
def Scans (text : List Char) (tokens : List Token) : Prop :=
  ∀ found rest, Ends rest →
    scanFrom? found (text.map some ++ rest) = scanFrom? (tokens.reverse ++ found) rest

/-- Where no blank stands, the next token is taken whole. -/
theorem scanFrom?_next {found : List Token} {place : Place} {rest after : List Place}
    {token : Token} (blank : isBlank place = false)
    (read : next? (place :: rest) = some (token, after)) :
    scanFrom? found (place :: rest) = scanFrom? (token :: found) after := by
  rw [scanFrom?, if_neg (by simp [blank])]
  split <;> simp_all

/-- A numeral ends at a character that cannot continue it. -/
theorem ends_cons {c : Char} (digit : Decimal.digit? c = none) (point : c ≠ '.')
    (lower : c ≠ 'e') (upper : c ≠ 'E') (rest : List Place) : Ends (some c :: rest) := by
  intro d after same
  cases same
  exact ⟨digit, point, lower, upper⟩

/-- One token that is read off whatever follows. -/
theorem Scans.single {c : Char} {text : List Char} {token : Token}
    (blank : isBlank (some c) = false)
    (read : ∀ rest, Ends rest → next? ((c :: text).map some ++ rest) = some (token, rest)) :
    Scans (c :: text) [token] := by
  intro found rest ends
  exact scanFrom?_next blank (read rest ends)

/-- A character that is a token by itself parts what stands before it from what stands after. -/
theorem Scans.part {c : Char} {before after : List Char} {token : Token}
    {first later : List Token} (blank : isBlank (some c) = false)
    (ends : ∀ rest, Ends (some c :: rest))
    (read : ∀ rest, next? (some c :: rest) = some (token, rest))
    (left : Scans before first) (right : Scans after later) :
    Scans (before ++ c :: after) (first ++ token :: later) := by
  intro found rest stops
  rw [List.map_append, List.map_cons, List.append_assoc, List.cons_append,
    left found _ (ends _), scanFrom?_next blank (read _), right _ rest stops]
  simp

/-- No text has no tokens. -/
theorem Scans.nil : Scans [] [] := by
  intro found rest _
  rfl

/-- Nothing but characters that may stand between tokens. -/
def Blank (text : List Char) : Prop :=
  ∀ c ∈ text, isBlank (some c) = true

/-- No text is blank. -/
theorem Blank.nil : Blank [] :=
  fun _ absent => absurd absent List.not_mem_nil

/-- A blank makes no number longer. -/
theorem ends_blank {c : Char} (blank : isBlank (some c) = true) (rest : List Place) :
    Ends (some c :: rest) := by
  simp only [isBlank, Bool.or_eq_true, decide_eq_true_eq, Option.some.injEq] at blank
  rcases blank with ((rfl | rfl) | rfl) | rfl <;>
    exact ends_cons rfl (by decide) (by decide) (by decide) rest

/-- Blanks can stand between a numeral and what ends it. -/
theorem Blank.ends {text : List Char} (blank : Blank text) {rest : List Place}
    (ends : Ends rest) : Ends (text.map some ++ rest) := by
  cases text with
  | nil => exact ends
  | cons c others => exact ends_blank (blank c List.mem_cons_self) _

/-- Blanks in front of a text are passed over. -/
theorem Scans.indent {blanks text : List Char} {tokens : List Token} (scans : Scans text tokens)
    (blank : Blank blanks) : Scans (blanks ++ text) tokens := by
  intro found rest ends
  induction blanks with
  | nil => exact scans found rest ends
  | cons c others ih =>
    have later := ih fun other present => blank other (List.mem_cons_of_mem c present)
    rw [List.cons_append, List.map_cons, List.cons_append, scanFrom?,
      if_pos (blank c List.mem_cons_self), later]

/-- So are blanks behind it. -/
theorem Scans.pad {blanks text : List Char} {tokens : List Token} (scans : Scans text tokens)
    (blank : Blank blanks) : Scans (text ++ blanks) tokens := by
  intro found rest ends
  have skipped := Scans.nil.indent blank (tokens.reverse ++ found) rest ends
  rw [List.append_nil] at skipped
  rw [List.map_append, List.append_assoc, scans found _ (blank.ends ends), skipped]
  rfl

/-- Token runs in order with commas between them. -/
def joined : List (List Token) → List Token
  | [] => []
  | [run] => run
  | run :: rest => run ++ comma :: joined rest

/-- Texts that are scanned one by one are scanned together with a comma between them. -/
theorem Scans.comma {before after : List Char} {first later : List Token}
    (left : Scans before first) (right : Scans after later) :
    Scans (before ++ ',' :: after) (first ++ Token.comma :: later) :=
  .part rfl (ends_cons rfl (by decide) (by decide) (by decide)) (fun _ => rfl) left right

/-- Parts that scan one by one scan together, with blanks behind the commas or without. -/
theorem scans_separated {α : Type} {items : List α} {text : α → List Char}
    {tokens : α → List Token} {blanks : List Char} (blank : Blank blanks)
    (each : ∀ item ∈ items, Scans (text item) (tokens item)) :
    Scans (Value.separated (',' :: blanks) (items.map text)) (joined (items.map tokens)) := by
  induction items with
  | nil => exact .nil
  | cons item others ih =>
    have first := each item (by simp)
    cases others with
    | nil => exact first
    | cons next rest =>
      have later := ih fun other present => each other (by simp [present])
      simpa [Value.separated, joined] using first.comma (later.indent blank)

/-- Parts between an opening and a closing character. -/
theorem Scans.enclose {opening closing : Char} {start stop : Token} {text : List Char}
    {tokens : List Token} (opens : isBlank (some opening) = false)
    (starts : ∀ rest, next? (some opening :: rest) = some (start, rest))
    (closes : isBlank (some closing) = false)
    (ends : ∀ rest, Ends (some closing :: rest))
    (stops : ∀ rest, next? (some closing :: rest) = some (stop, rest))
    (inner : Scans text tokens) :
    Scans (opening :: text ++ [closing]) (start :: tokens ++ [stop]) := by
  intro found rest follows
  rw [List.cons_append, List.map_cons, List.cons_append, scanFrom?_next opens (starts _),
    inner.part closes ends stops .nil _ rest follows]
  simp

end Token

end CausalTrace.Json
