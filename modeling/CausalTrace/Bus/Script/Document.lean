import CausalTrace.Bus.Script

/-!
# Scripts as documents

A script can be written as a list of objects, one for each action.  The member "do" holds the
word of the action and the other members what the action needs; a member that is missing stands
for zero, an empty text, an empty list or no lineage.  A lineage, the steps of a sender and the
edits of a hook are lists of short lists that begin with a word.
-/

namespace CausalTrace

open Json (Value)

namespace Script

/-- What a member says as a text. -/
def said (value : Value) (name : String) : String :=
  ((value.member? name).bind Value.text?).getD ""

/-- A list that a member holds. -/
def listed (value : Value) (name : String) : List Value :=
  ((value.member? name).bind Value.items?).getD []

/-- A number, which may be written as a text of its digits. -/
def counted? (value : Value) : Option Nat :=
  value.natural?.or (value.text?.bind fun text => Decimal.digits? text.toList)

/-- A list with a word in front, as the word and what comes next. -/
def worded? : Value → Option (String × Value)
  | .array [.text word] => some (word, .null)
  | .array [.text word, value] => some (word, value)
  | _ => none

end Script

open Script

/-- Reads the identity of a message in its short form. -/
def Causality.ofValue? (value : Value) : Option Causality := do
  let parents ← (listed value "parents").mapM Value.text?
  return ⟨said value "id", parents, (value.member? "label").bind Value.text?⟩

/-- Reads a lineage: labels, parents and whole identities to descend from. -/
def Lineage.ofValue? (value : Value) : Option Lineage := do
  (← value.items?).foldlM (fun lineage step => do
    match ← worded? step with
    | ("label", .text label) => return lineage.withLabel label
    | ("parent", .text parent) => return lineage.withParent parent
    | ("context", context) => return lineage.descend (← Causality.ofValue? context)
    | _ => none) .root

/-- Reads a step of a sender. -/
def SenderStep.ofValue? (value : Value) : Option SenderStep := do
  match ← worded? value with
  | ("label", .text text) => return label text
  | ("options", steps) => return lineage (← Lineage.ofValue? steps)
  | ("context", .text slot) => return context (some slot)
  | ("context", .null) => return context none
  | _ => none

/-- Reads an edit of headers. -/
def HeaderEdit.ofValue? : Value → Option HeaderEdit
  | .array [.text "set", .text name, .text value] => some (set name value)
  | .array [.text "add", .text name, .text value] => some (add name value)
  | .array [.text "remove", .text name] => some (remove name)
  | .array [.text "log"] => some note
  | _ => none

/-- Reads how a sender sends. -/
def Via.ofWord? : String → Option Via
  | "" => some write
  | "write" => some write
  | "send" => some send
  | "request" => some request
  | _ => none

/-- Reads a side of the bus. -/
def Side.ofWord? : String → Option Side
  | "out" => some outbound
  | "in" => some inbound
  | _ => none

namespace Action

/-- Reads an action whose scripts nest at most `depth` deep. -/
def within? : (depth : Nat) → Value → Option Action
  | 0, _ => none
  | depth + 1, value => do
    let script (name : String) : Option (List Action) := (listed value name).mapM (within? depth)
    let address := said value "to"
    let body ← Payload.ofValue? ((value.member? "body").getD .null)
    let lineage ← (value.member? "options").mapM Lineage.ofValue?
    let steps ← (listed value "steps").mapM SenderStep.ofValue?
    let via ← Via.ofWord? (said value "via")
    let onReply ← script "on_reply"
    let actions ← script "script"
    let edits ← (listed value "acts").mapM HeaderEdit.ofValue?
    let id := ((value.member? "id").bind counted?).getD 0
    let name := said value "name"
    let slot := said value "slot"
    let action ← match said value "do" with
      | "reply" => some (reply body)
      | "fwd" => some (forward .toOne address body)
      | "fwd_publish" => some (forward .toAll address body)
      | "fwd_request" => some (forwardRequest address body onReply)
      | "fwd_sender" => some (forwardSender address steps via body onReply)
      | "options" => some options
      | "hold" => some (hold slot)
      | "drop" => some drop
      | "consumer" => some (consumer (said value "address") name actions)
      | "remove_consumer" => some (removeConsumer id)
      | "send" => some (send .toOne address body lineage)
      | "publish" => some (send .toAll address body lineage)
      | "request" => some (request address body lineage onReply)
      | "sender" => some (sender .toOne address steps via body onReply)
      | "publisher" => some (sender .toAll address steps via body onReply)
      | "pending" => some pending
      | "intercept" =>
        (Side.ofWord? (said value "dir")).map fun side => intercept side (.edit name edits)
      | "remove_interceptor" => some (removeInterceptor id)
      | "held" => some (held slot actions)
      | "drop_held" => some (dropHeld slot)
      | _ => none
    match value.member? "max" with
    | some limit => (counted? limit).map fun limit => limited limit action
    | none => some action

/-- Reads an action. -/
def ofValue? (value : Value) : Option Action := within? Value.depthLimit value

end Action

end CausalTrace
