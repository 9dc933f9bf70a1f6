import CausalTrace.Json.Token
import CausalTrace.Text.Utf8

/-!
# Documents

A document is the syntax of a source: nothing is decided here about the size of a number, about
strings without a text, or about members of equal name.  Those are errors only for a reader that
wants the value in question, and a part that nobody asks for is never judged.

The builder is a pushdown machine over tokens: `Open` says which containers are unfinished and
`Awaited` says what may come next.  It nests without a limit.
-/

namespace CausalTrace.Json

/-- The syntax tree of a source. -/
inductive Document where
  | null
  | boolean (value : Bool)
  | numeral (literal : Numeral)
  | text (content : Option String)
  | array (items : List Document)
  | object (members : List (Option String × Document))
  deriving Repr, Inhabited

namespace Document

/-- Members of an object as they were read, backwards. -/
abbrev Members := List (Option String × Document)

/-- An unfinished container: what it holds so far, backwards. -/
inductive Open where
  | items (done : List Document)
  | members (done : Members) (name : Option String)

/-- What may come next. -/
inductive Awaited where
  /-- A value. -/
  | value
  /-- The first item of an array, or its end. -/
  | firstItem
  /-- The first name of an object, or its end. -/
  | firstName
  /-- Another name of an object. -/
  | name (done : Members)
  /-- The colon after a name. -/
  | colon (done : Members) (name : Option String)
  /-- Whatever follows a complete value. -/
  | following (value : Document)

/-- A token that starts a value: what is awaited after it, and what it leaves unfinished. -/
def start? (containers : List Open) : Token → Option (Awaited × List Open)
  | .null => some (.following null, containers)
  | .boolean value => some (.following (boolean value), containers)
  | .numeral literal => some (.following (numeral literal), containers)
  | .quoted content => some (.following (text content), containers)
  | .openArray => some (.firstItem, containers)
  | .openObject => some (.firstName, containers)
  | _ => none

/-- One token of the builder. -/
def step? : Awaited × List Open → Token → Option (Awaited × List Open)
  | (.value, containers), token => start? containers token
  | (.firstItem, containers), .closeArray => some (.following (array []), containers)
  | (.firstItem, containers), token => start? (.items [] :: containers) token
  | (.firstName, containers), .closeObject => some (.following (object []), containers)
  | (.firstName, containers), .quoted name => some (.colon [] name, containers)
  | (.name done, containers), .quoted name => some (.colon done name, containers)
  | (.colon done name, containers), .colon => some (.value, .members done name :: containers)
  | (.following value, .items done :: containers), .comma =>
    some (.value, .items (value :: done) :: containers)
  | (.following value, .items done :: containers), .closeArray =>
    some (.following (array (value :: done).reverse), containers)
  | (.following value, .members done name :: containers), .comma =>
    some (.name ((name, value) :: done), containers)
  | (.following value, .members done name :: containers), .closeObject =>
    some (.following (object ((name, value) :: done).reverse), containers)
  | _, _ => none

/-- The document that a whole run of tokens forms. -/
def ofTokens? (tokens : List Token) : Option Document :=
  match tokens.foldlM step? (Awaited.value, []) with
  | some (.following value, []) => some value
  | _ => none

/-- The document of a source given by places. -/
def ofPlaces? (source : List Place) : Option Document :=
  (Token.scan? source).bind ofTokens?

/-- The document of a text. -/
def ofText? (source : String) : Option Document :=
  ofPlaces? (source.toList.map some)

/-- The document of a byte string. -/
def ofBytes? (source : Bytes) : Option Document :=
  ofPlaces? (Utf8.symbols source)

/-! ## Reading what a document holds -/

/-- The text of a string that has one. -/
def text? : Document → Option String
  | text content => content
  | _ => none

/-- The items of an array. -/
def items? : Document → Option (List Document)
  | array items => some items
  | _ => none

/-- An integer in a closed range. -/
def integer? (low high : Int) : Document → Option Int
  | numeral literal => literal.integer?.filter fun value => low ≤ value ∧ value ≤ high
  | _ => none

/-- An unsigned integer below `2 ^ 64`. -/
def natural? (document : Document) : Option Nat :=
  (document.integer? 0 (2 ^ 64 - 1)).map Int.toNat

/-- Reads every item of an array the same way. -/
def listOf? {α : Type} (read : Document → Option α) (document : Document) : Option (List α) :=
  document.items?.bind fun items => items.mapM read

/-- Reads `null` as nothing and any other document as something. -/
def optional? {α : Type} (read : Document → Option α) : Document → Option (Option α)
  | null => some none
  | document => (read document).map some

/-- A member whose name has a text. -/
def named? (member : Option String × Document) : Option (String × Document) :=
  member.1.map fun name => (name, member.2)

/-- The values of the named fields, in the order of the names, with nothing for a field that is
not there.  An object may have further members and any order, but each name at most once; an
array gives the fields in order and may stop early. -/
def fields? (names : List String) : Document → Option (List (Option Document))
  | object members =>
    (members.mapM named?).bind fun members =>
      if names.any fun name => 1 < (members.filter fun member => member.1 == name).length then none
      else some (names.map fun name => members.lookup name)
  | array items =>
    if items.length ≤ names.length then
      some (items.map some ++ List.replicate (names.length - items.length) none)
    else none
  | _ => none

/-- The name and the content of a variant: a string names a variant without content, an object
of one member names one with content. -/
def variant? : Document → Option (String × Option Document)
  | text content => content.map fun name => (name, none)
  | object [(name, content)] => name.map fun name => (name, some content)
  | _ => none

end Document

end CausalTrace.Json
