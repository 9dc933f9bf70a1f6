import CausalTrace.Message.Headers

/-!
# Causal identity of a message

Every traced message carries an identity: its own id, the ids of the messages it descends from
and an optional label that a call site gives and descendants inherit.  The identity travels as
the text of one reserved header.  Writing and reading that text are inverse on every identity
with a non-empty id, and attaching an identity replaces every reserved header there was.
-/

namespace CausalTrace

/-- The id of a traced message. -/
abbrev MessageId := String

/-- Why the text of a reserved header was refused, with its first characters. -/
structure MalformedHeader where
  excerpt : String
  reason : String
  deriving DecidableEq, Repr, Inhabited

namespace MalformedHeader

/-- How many characters of a refused text are kept. -/
def excerptLength : Nat := 64

/-- Refuses a text for a reason. -/
def refuse (text reason : String) : MalformedHeader :=
  ⟨String.ofList (text.toList.take excerptLength), reason⟩

/-- The reason for a text that is no identity at all. -/
def undecodable : String := "decode"

/-- The reason for an identity without an id. -/
def emptyId : String := "empty message_id"

end MalformedHeader

/-- The identity of a message and its place among others. -/
structure Causality where
  id : MessageId
  /-- The messages it descends from, oldest relationship first. -/
  parents : List MessageId
  label : Option String
  deriving DecidableEq, Repr, Inhabited

namespace Causality

/-- The reserved header name. -/
def headerName : String := "x-bustrace"

/-- The identity of a message that descends from one other.  Its label is the given one, else
that of the parent. -/
def childOf (id : MessageId) (parent : Causality) (label : Option String) : Causality :=
  ⟨id, [parent.id], label.or parent.label⟩

/-- Whether the message starts a chain of its own. -/
def isRoot (causality : Causality) : Bool :=
  causality.parents.isEmpty

/-- The names of the fields in written order. -/
def fieldNames : List String := ["message_id", "parent_ids", "label"]

/-- The identity as a value to be written. -/
def toValue (causality : Causality) : Json.Value :=
  .object [
    ("message_id", .text causality.id),
    ("parent_ids", .texts causality.parents),
    ("label", (causality.label.map Json.Value.text).getD .null)]

/-- The header text of an identity. -/
def encode (causality : Causality) : String :=
  causality.toValue.render

/-- Reads an identity from a document.  The id may still be empty. -/
def ofDocument? (document : Json.Document) : Option Causality := do
  let [some id, parents, label] ← document.fields? fieldNames | none
  return {
    id := ← id.text?
    parents := ← match parents with
      | none => some []
      | some parents => parents.listOf? Json.Document.text?
    label := ← match label with
      | none => some none
      | some label => label.optional? Json.Document.text? }

/-- Reads a header text. -/
def decode (text : String) : Except MalformedHeader Causality :=
  match (Json.Document.ofText? text).bind ofDocument? with
  | none => .error (.refuse text MalformedHeader.undecodable)
  | some causality =>
    if causality.id = "" then .error (.refuse text MalformedHeader.emptyId) else .ok causality

/-- The identity that headers carry, if any: the first reserved header decides. -/
def extract (headers : Headers) : Except MalformedHeader (Option Causality) :=
  match headers.get? headerName with
  | none => .ok none
  | some text => (decode text).map some

/-- Puts an identity into headers in place of every reserved header. -/
def attach (causality : Causality) (headers : Headers) : Headers :=
  headers.set headerName causality.encode

end Causality

namespace MessageId

/-- How many characters a generated id has. -/
def generatedSize : Nat := 16

/-- The digits of generated ids. -/
def symbol (n : Nat) : Char :=
  if n < 10 then Char.ofNat ('0'.toNat + n)
  else if n < 36 then Char.ofNat ('A'.toNat + (n - 10))
  else Char.ofNat ('a'.toNat + (n - 36))

/-- The last `count` digits of a number, written to the base 62. -/
def symbols : Nat → Nat → List Char
  | 0, _ => []
  | count + 1, n => symbols count (n / 62) ++ [symbol (n % 62)]

/-- The id drawn at a given turn.  Different turns below `62 ^ 16` give different ids. -/
def generated (turn : Nat) : MessageId :=
  String.ofList (symbols generatedSize turn)

end MessageId

end CausalTrace
