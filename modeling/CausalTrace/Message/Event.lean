import CausalTrace.Message.Causality

/-!
# Captured messages

An event is what a capture hook keeps of a message in flight: a copy of the message with the
text of its body, the identity it carried, which way it went and when.
-/

namespace CausalTrace

/-- Which way a message was seen to go. -/
inductive Direction where
  | sent
  | received
  deriving DecidableEq, Repr, Inhabited

namespace Direction

/-- The word for a direction. -/
def word : Direction → String
  | sent => "sent"
  | received => "received"

/-- The direction of a word. -/
def ofWord? : String → Option Direction
  | "sent" => some sent
  | "received" => some received
  | _ => none

/-- Reads a direction from a document. -/
def ofDocument? (document : Json.Document) : Option Direction := do
  match ← document.variant? with
  | (word, none) => ofWord? word
  | (word, some .null) => ofWord? word
  | _ => none

end Direction

/-- A copy of a message with the text of its body. -/
structure Snapshot where
  address : String
  reply : Option String
  headers : Headers
  body : String
  deriving DecidableEq, Repr, Inhabited

/-- A captured message. -/
structure Event where
  message : Snapshot
  /-- Nothing for a message that came without a readable identity. -/
  causality : Option Causality
  direction : Direction
  /-- Milliseconds since the start of 1970. -/
  time : Int64
  deriving DecidableEq, Repr, Inhabited

end CausalTrace
