import CausalTrace.Json.Value

/-!
# Message headers

Headers are a list of named values.  Names compare without regard to the case of ASCII letters
and may repeat; every other character, accented letters and lookalikes included, only equals
itself.  All operations keep the order of the entries they do not remove, so headers are
independent lists of values, one for each class of equal names.
-/

namespace CausalTrace

/-- A name with its ASCII letters in lower case: equal names have equal keys. -/
def nameKey (name : String) : List Char :=
  name.toList.map Char.toLower

/-- Whether two header names are the same name. -/
def sameName (left right : String) : Bool :=
  nameKey left == nameKey right

/-- The headers of a message, in insertion order. -/
structure Headers where
  entries : List (String × String)
  deriving DecidableEq, Repr, Inhabited

namespace Headers

/-- No headers. -/
def empty : Headers := ⟨[]⟩

/-- All values under a name, in insertion order. -/
def getAll (headers : Headers) (name : String) : List String :=
  (headers.entries.filter fun entry => sameName entry.1 name).map Prod.snd

/-- The first value under a name. -/
def get? (headers : Headers) (name : String) : Option String :=
  (headers.entries.find? fun entry => sameName entry.1 name).map Prod.snd

/-- Whether there is a value under a name. -/
def contains (headers : Headers) (name : String) : Bool :=
  (headers.get? name).isSome

/-- Appends a value and keeps those already there. -/
def add (headers : Headers) (name value : String) : Headers :=
  ⟨headers.entries ++ [(name, value)]⟩

/-- The entries of all other names. -/
def without (headers : Headers) (name : String) : Headers :=
  ⟨headers.entries.filter fun entry => !sameName entry.1 name⟩

/-- How many values there are under a name. -/
def count (headers : Headers) (name : String) : Nat :=
  headers.entries.countP fun entry => sameName entry.1 name

/-- Removes every value under a name and tells how many there were. -/
def remove (headers : Headers) (name : String) : Headers × Nat :=
  (headers.without name, headers.count name)

/-- Replaces every value under a name by one value, which moves to the end. -/
def set (headers : Headers) (name value : String) : Headers :=
  (headers.without name).add name value

/-- How many entries there are. -/
def size (headers : Headers) : Nat :=
  headers.entries.length

/-- Whether there is no entry. -/
def isEmpty (headers : Headers) : Bool :=
  headers.entries.isEmpty

/-- One line for each entry: name, colon, blank, value. -/
def toText (headers : Headers) : String :=
  String.intercalate "\n" (headers.entries.map fun entry => entry.1 ++ ": " ++ entry.2)

/-- The headers as a value to be written. -/
def toValue (headers : Headers) : Json.Value :=
  .object [("entries", .array (headers.entries.map fun entry => .texts [entry.1, entry.2]))]

/-- An entry is an array of a name and a value. -/
def entryOfDocument? (document : Json.Document) : Option (String × String) := do
  let [name, value] ← document.listOf? Json.Document.text? | none
  return (name, value)

/-- Reads headers from a document. -/
def ofDocument? (document : Json.Document) : Option Headers := do
  let [some entries] ← document.fields? ["entries"] | none
  return ⟨← entries.listOf? entryOfDocument?⟩

end Headers

end CausalTrace
