import CausalTrace.Powers
import CausalTrace.Text.Decimal

/-!
# Documents of settings

A configuration file is a TOML document: keys with values, one on each line, and headers that
open a table for the lines below them.  Settings are texts, integers, or tables around nothing,
so that is what a document is read as.  No setting is a boolean, a float, a date, a list with
something in it or a list of tables; a document with one of those is refused just like a text
that is no document at all.

A table may be written in four ways, and each may be added to only in its own way.  This is why
`Origin` is kept: without it two spellings of one key could stand side by side.
-/

namespace CausalTrace.Toml

/-- How a table came to be. -/
inductive Origin where
  /-- As a value in braces; nothing can be added. -/
  | value
  /-- By a key with dots. -/
  | dotted
  /-- By a header for a table inside of it. -/
  | implied
  /-- By its own header. -/
  | declared
  deriving DecidableEq, Repr, Inhabited

/-- A value of a document. -/
inductive Item where
  | text (content : String)
  | integer (value : Int)
  | emptyList
  | table (origin : Origin) (entries : List (String × Item))
  deriving Inhabited

/-- The keys of a table with their values. -/
abbrev Entries := List (String × Item)

/-! ## Blanks and line ends -/

/-- Whether a character may stand in a comment or a text on one line. -/
def isPlain (c : Char) : Bool :=
  c = '\t' || (' ' ≤ c && c ≠ '\x7f')

/-- What follows blanks. -/
def skipBlanks (input : List Char) : List Char :=
  input.dropWhile fun c => c = ' ' || c = '\t'

/-- What follows a comment, if there is one. -/
def skipComment : List Char → List Char
  | '#' :: rest => rest.dropWhile isPlain
  | input => input

/-- What follows a line break. -/
def lineBreak? : List Char → Option (List Char)
  | '\n' :: rest => some rest
  | '\r' :: '\n' :: rest => some rest
  | _ => none

/-- What follows the rest of a line that may only hold blanks and a comment. -/
def lineEnd? (input : List Char) : Option (List Char) :=
  match skipComment (skipBlanks input) with
  | [] => some []
  | rest => lineBreak? rest

/-! ## Texts -/

/-- The character of an escape with one letter. -/
def shortEscape? : Char → Option Char
  | 'b' => some '\x08'
  | 't' => some '\t'
  | 'n' => some '\n'
  | 'f' => some '\x0c'
  | 'r' => some '\r'
  | '"' => some '"'
  | '\\' => some '\\'
  | _ => none

/-- The character with a code point in hexadecimal digits. -/
def codePoint? (digits : List Char) : Option Char := do
  let values ← digits.mapM Decimal.hexDigit?
  let value := values.foldl (fun sum digit => sum * 16 + digit) 0
  if value.isValidChar then some (Char.ofNat value) else none

/-- Puts a character in front of a text that was read. -/
def before (c : Char) (read : List Char × List Char) : List Char × List Char :=
  (c :: read.1, read.2)

/-- Reads an escape; `rest` follows the backslash. -/
def escape? : List Char → Option (Char × List Char)
  | 'u' :: a :: b :: c :: d :: rest => (codePoint? [a, b, c, d]).map (·, rest)
  | 'U' :: a :: b :: c :: d :: e :: f :: g :: h :: rest =>
    (codePoint? [a, b, c, d, e, f, g, h]).map (·, rest)
  | c :: rest => (shortEscape? c).map (·, rest)
  | [] => none

/-- An escape leaves less than there was. -/
theorem escape?_length {input rest : List Char} {c : Char}
    (read : escape? input = some (c, rest)) : rest.length < input.length := by
  unfold escape? at read
  split at read <;> simp only [Option.map_eq_some_iff, Prod.mk.injEq, reduceCtorEq] at read
  all_goals
    obtain ⟨_, _, _, rfl⟩ := read
    simp only [List.length_cons]
    omega

/-- Reads a text on one line up to its closing quotation mark. -/
def basic? (input : List Char) : Option (List Char × List Char) :=
  match input with
  | [] => none
  | '"' :: rest => some ([], rest)
  | '\\' :: rest =>
    match _read : escape? rest with
    | some (c, rest) => (basic? rest).map (before c)
    | none => none
  | c :: rest => if isPlain c then (basic? rest).map (before c) else none
termination_by input.length
decreasing_by
  · have := escape?_length _read
    simp only [List.length_cons]
    omega
  · simp

/-- Reads a text on one line without escapes. -/
def literal? : List Char → Option (List Char × List Char)
  | [] => none
  | '\'' :: rest => some ([], rest)
  | c :: rest => if isPlain c then (literal? rest).map (before c) else none

/-- Up to two quotation marks may stand right before the three that close a
text of many lines. -/
def closing (mark : Char) : List Char → List Char × List Char
  | first :: second :: rest =>
    if first = mark then
      if second = mark then ([mark, mark], rest) else ([mark], second :: rest)
    else ([], first :: second :: rest)
  | [first] => if first = mark then ([mark], []) else ([], [first])
  | [] => ([], [])

/-- Where a text of many lines stands. -/
inductive Fold where
  | inside
  /-- After a backslash, where only blanks and a line break may follow. -/
  | folding
  /-- After such a line break, where blanks and line breaks are passed over. -/
  | folded
  deriving DecidableEq, Repr, Inhabited

/-- Reads a text of many lines with escapes. -/
def longBasic? (fold : Fold) (input : List Char) : Option (List Char × List Char) :=
  match fold, input with
  | .folding, ' ' :: rest => longBasic? .folding rest
  | .folding, '\t' :: rest => longBasic? .folding rest
  | .folding, '\n' :: rest => longBasic? .folded rest
  | .folding, '\r' :: '\n' :: rest => longBasic? .folded rest
  | .folding, _ => none
  | .folded, ' ' :: rest => longBasic? .folded rest
  | .folded, '\t' :: rest => longBasic? .folded rest
  | .folded, '\n' :: rest => longBasic? .folded rest
  | .folded, '\r' :: '\n' :: rest => longBasic? .folded rest
  | _, '"' :: '"' :: '"' :: rest => some (closing '"' rest)
  | _, '\\' :: rest =>
    match _read : escape? rest with
    | some (c, rest) => (longBasic? .inside rest).map (before c)
    | none => longBasic? .folding rest
  | _, '\n' :: rest => (longBasic? .inside rest).map (before '\n')
  | _, '\r' :: '\n' :: rest => (longBasic? .inside rest).map (before '\n')
  | _, c :: rest => if isPlain c then (longBasic? .inside rest).map (before c) else none
  | _, [] => none
termination_by input.length
decreasing_by
  all_goals simp only [List.length_cons]
  all_goals grind [→ escape?_length]

/-- Reads a text of many lines without escapes. -/
def longLiteral? : List Char → Option (List Char × List Char)
  | '\'' :: '\'' :: '\'' :: rest => some (closing '\'' rest)
  | '\n' :: rest => (longLiteral? rest).map (before '\n')
  | '\r' :: '\n' :: rest => (longLiteral? rest).map (before '\n')
  | c :: rest => if isPlain c then (longLiteral? rest).map (before c) else none
  | [] => none

/-- A line break right after the opening marks does not belong to the text. -/
def opened (input : List Char) : List Char := (lineBreak? input).getD input

/-- Reads a text in any of its four spellings. -/
def text? (input : List Char) : Option (String × List Char) :=
  let read := match input with
    | '"' :: '"' :: '"' :: rest => longBasic? .inside (opened rest)
    | '"' :: rest => basic? rest
    | '\'' :: '\'' :: '\'' :: rest => longLiteral? (opened rest)
    | '\'' :: rest => literal? rest
    | _ => none
  read.map fun read => (String.ofList read.1, read.2)

/-! ## Integers -/

/-- The value of digits to a base; single underscores may stand between digits. -/
def digits? (base : Nat) (input : List Char) : Option Nat :=
  let parts := input.splitOn '_'
  if parts.any List.isEmpty then none
  else
    parts.flatten.foldlM (fun sum c =>
      match Decimal.hexDigit? c with
      | some digit => if digit < base then some (sum * base + digit) else none
      | none => none) 0

/-- The value of decimal digits, of which the first is a zero only if it is the only one. -/
def decimal? : List Char → Option Nat
  | ['0'] => some 0
  | '0' :: _ => none
  | input => digits? 10 input

/-- The integer of a word, if it fits into 64 bits with a sign. -/
def integer? (word : List Char) : Option Int :=
  let value : Option Int := match word with
    | '0' :: 'x' :: rest => (digits? 16 rest).map Int.ofNat
    | '0' :: 'o' :: rest => (digits? 8 rest).map Int.ofNat
    | '0' :: 'b' :: rest => (digits? 2 rest).map Int.ofNat
    | '+' :: rest => (decimal? rest).map Int.ofNat
    | '-' :: rest => (decimal? rest).map fun size => -(size : Int)
    | _ => (decimal? word).map Int.ofNat
  value.filter fun n => -2 ^ 63 ≤ n ∧ n < 2 ^ 63

/-- Whether a character may belong to a value without marks. -/
def isWordChar (c : Char) : Bool :=
  c.isAlphanum || c = '_' || c = '+' || c = '-' || c = '.' || c = ':'

/-! ## Keys -/

/-- Whether a character may stand in a key without marks. -/
def isKeyChar (c : Char) : Bool :=
  c.isAlphanum || c = '_' || c = '-'

/-- Reads one part of a key. -/
def keyPart? (input : List Char) : Option (String × List Char) :=
  match input with
  | '"' :: rest => (basic? rest).map fun read => (String.ofList read.1, read.2)
  | '\'' :: rest => (literal? rest).map fun read => (String.ofList read.1, read.2)
  | _ =>
    match input.takeWhile isKeyChar with
    | [] => none
    | name => some (String.ofList name, input.dropWhile isKeyChar)

/-- Reads a key of at most `limit` parts with dots between them. -/
def key? : (limit : Nat) → List Char → Option (List String × List Char)
  | 0, _ => none
  | limit + 1, input => do
    let (part, rest) ← keyPart? (skipBlanks input)
    match skipBlanks rest with
    | '.' :: rest =>
      let (parts, rest) ← key? limit rest
      return (part :: parts, rest)
    | rest => return ([part], rest)

/-! ## Tables -/

/-- Puts a value in place of the one under a key. -/
def replace (entries : Entries) (key : String) (item : Item) : Entries :=
  entries.map fun entry => if entry.1 = key then (key, item) else entry

/-- Gives a value to a key that has none.  The tables on the way come from keys with dots. -/
def assign (entries : Entries) : List String → Item → Option Entries
  | [], _ => none
  | [key], item =>
    match entries.lookup key with
    | some _ => none
    | none => some (entries ++ [(key, item)])
  | key :: rest, item =>
    match entries.lookup key with
    | none => do return entries ++ [(key, .table .dotted (← assign [] rest item))]
    | some (.table .dotted inner) =>
      do return replace entries key (.table .dotted (← assign inner rest item))
    | some _ => none

/-- Opens the table of a header, which must not have been opened before. -/
def declare (entries : Entries) : List String → Option Entries
  | [] => none
  | [key] =>
    match entries.lookup key with
    | none => some (entries ++ [(key, .table .declared [])])
    | some (.table .implied inner) => some (replace entries key (.table .declared inner))
    | some _ => none
  | key :: rest =>
    match entries.lookup key with
    | none => do return entries ++ [(key, .table .implied (← declare [] rest))]
    | some (.table .value _) => none
    | some (.table origin inner) =>
      do return replace entries key (.table origin (← declare inner rest))
    | some _ => none

/-- Gives a value to a key in the table of a header. -/
def assignBelow (entries : Entries) (header path : List String) (item : Item) :
    Option Entries :=
  match header with
  | [] => assign entries path item
  | key :: rest =>
    match entries.lookup key with
    | some (.table origin inner) =>
      do return replace entries key (.table origin (← assignBelow inner rest path item))
    | _ => none

/-! ## Values and documents -/

/-- What follows blanks, line breaks and whole lines of comment. -/
def skipLines : (limit : Nat) → List Char → List Char
  | 0, input => input
  | limit + 1, input =>
    match lineBreak? (skipComment (skipBlanks input)) with
    | some rest => skipLines limit rest
    | none => skipBlanks input

mutual

/-- Reads a value that is nested at most `limit` deep. -/
def item? (limit : Nat) (input : List Char) : Option (Item × List Char) :=
  match limit with
  | 0 => none
  | limit + 1 =>
    match input with
    | '"' :: _ => (text? input).map fun read => (.text read.1, read.2)
    | '\'' :: _ => (text? input).map fun read => (.text read.1, read.2)
    | '[' :: rest =>
      match skipLines rest.length rest with
      | ']' :: rest => some (.emptyList, rest)
      | _ => none
    | '\x7b' :: rest =>
      match skipBlanks rest with
      | '\x7d' :: rest => some (.table .value [], rest)
      | rest => (members? limit [] rest).map fun read => (.table .value read.1, read.2)
    | _ => (integer? (input.takeWhile isWordChar)).map fun value =>
        (.integer value, input.dropWhile isWordChar)

/-- Reads the members of a table in braces up to the closing brace. -/
def members? (limit : Nat) (entries : Entries) (input : List Char) :
    Option (Entries × List Char) :=
  match limit with
  | 0 => none
  | limit + 1 => do
    let (path, rest) ← key? input.length input
    let '=' :: rest := rest | none
    let (item, rest) ← item? limit (skipBlanks rest)
    let entries ← assign entries path item
    match skipBlanks rest with
    | ',' :: rest => members? limit entries rest
    | '\x7d' :: rest => return (entries, rest)
    | _ => none

end

/-- Reads the lines of a document below a header; each takes at least one character. -/
def lines? : (limit : Nat) → (header : List String) → Entries → List Char → Option Entries
  | 0, _, _, _ => none
  | limit + 1, header, entries, input =>
    match skipBlanks input with
    | [] => some entries
    | '#' :: rest => do lines? limit header entries (← lineEnd? ('#' :: rest))
    | '[' :: rest => do
      let (path, rest) ← key? rest.length rest
      let ']' :: rest := rest | none
      lines? limit path (← declare entries path) (← lineEnd? rest)
    | rest =>
      match lineBreak? rest with
      | some rest => lines? limit header entries rest
      | none => do
        let (path, rest) ← key? rest.length rest
        let '=' :: rest := rest | none
        let (item, rest) ← item? rest.length (skipBlanks rest)
        lines? limit header (← assignBelow entries header path item) (← lineEnd? rest)

/-- Reads a document, which may start with a byte order mark. -/
def document? (text : String) : Option Entries :=
  let input := match text.toList with
    | '\uFEFF' :: rest => rest
    | input => input
  lines? (input.length + 1) [] [] input

end CausalTrace.Toml
