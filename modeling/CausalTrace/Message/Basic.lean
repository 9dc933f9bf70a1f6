import CausalTrace.Message.Event
import CausalTrace.Message.Payload

/-!
# Messages

A message goes to an address and may name an address for the reply.  What its sender says about
its descent is a `Lineage`; together with a new id it becomes the identity of the message.
-/

namespace CausalTrace

/-- A message on its way. -/
structure Message where
  address : String
  /-- Where a reply is expected, if one is. -/
  reply : Option String
  headers : Headers
  body : Payload
  deriving Repr, Inhabited

namespace Message

/-- A message as it leaves its sender. -/
def new (address : String) (body : Payload) : Message := ⟨address, none, .empty, body⟩

/-- The identity that the message carries, if it is readable. -/
def causality (message : Message) : Option Causality :=
  match Causality.extract message.headers with
  | .ok found => found
  | .error _ => none

/-- A copy with the text of the body. -/
def snapshot (message : Message) : Snapshot :=
  ⟨message.address, message.reply, message.headers, message.body.toText⟩

end Message

/-- What a sender says about the descent of a message. -/
structure Lineage where
  label : Option String
  parents : List MessageId
  deriving DecidableEq, Repr, Inhabited

namespace Lineage

/-- No label and no parents. -/
def root : Lineage := ⟨none, []⟩

/-- Gives a label in place of any other. -/
def withLabel (lineage : Lineage) (label : String) : Lineage :=
  { lineage with label := some label }

/-- Adds a parent. -/
def withParent (lineage : Lineage) (parent : MessageId) : Lineage :=
  { lineage with parents := lineage.parents ++ [parent] }

/-- Adds a parent and takes over its label unless there is one already. -/
def descend (lineage : Lineage) (parent : Causality) : Lineage :=
  ⟨lineage.label.or parent.label, lineage.parents ++ [parent.id]⟩

/-- The lineage of what descends from a message alone. -/
def below (message : Message) : Lineage :=
  match message.causality with
  | some parent => root.descend parent
  | none => root

/-- The identity of a message with this lineage. -/
def identity (lineage : Lineage) (id : MessageId) : Causality :=
  ⟨id, lineage.parents, lineage.label⟩

end Lineage

end CausalTrace
