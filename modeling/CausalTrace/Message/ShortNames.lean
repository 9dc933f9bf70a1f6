import CausalTrace.Message.Basic
import CausalTrace.Text.Decimal

/-!
# Short names for ids

A generated id says nothing to a reader.  An account of what happened shows it under a short name
instead, a number sign and its place among the ids in the order in which they came up, so that
accounts of the same happenings are alike.  An id that the reader wrote out keeps its text.  From
the moment it is given, a short name may stand wherever an id is asked for.
-/

namespace CausalTrace

/-- The short names of an account. -/
structure ShortNames where
  /-- What the reader wrote. -/
  written : String
  /-- The ids that came up, in order. -/
  ids : List MessageId
  deriving DecidableEq, Repr, Inhabited

namespace ShortNames

/-- Whether an id looks generated and was not written out by the reader. -/
def covers (names : ShortNames) (id : MessageId) : Bool :=
  id.length == MessageId.generatedSize && id.all Char.isAlphanum
    && (names.written.splitOn id).length == 1

/-- Takes note of an id that comes up. -/
def note (names : ShortNames) (id : MessageId) : ShortNames :=
  if names.ids.contains id || !names.covers id then names
  else { names with ids := names.ids ++ [id] }

/-- What an id is shown as. -/
def render (names : ShortNames) (id : MessageId) : String :=
  match names.ids.idxOf? id with
  | some place => "#" ++ Decimal.render (place + 1)
  | none => id

/-- The id that a text stands for, which is the text itself unless it is a short name. -/
def resolve (names : ShortNames) (text : String) : MessageId :=
  match text.toList with
  | '#' :: digits =>
    match Decimal.digits? digits with
    | some (place + 1) => names.ids[place]?.getD text
    | _ => text
  | _ => text

/-- The lineage that is meant by one with short names in it. -/
def lineage (names : ShortNames) (lineage : Lineage) : Lineage :=
  { lineage with parents := lineage.parents.map names.resolve }

end ShortNames

end CausalTrace
