import CausalTrace.Json.Value
import CausalTrace.Text.Base64
import CausalTrace.Text.Hex

/-!
# Message bodies

A body is nothing, text, a structured value or opaque bytes.  Records keep only its text.
-/

namespace CausalTrace

/-- The body of a message. -/
inductive Payload where
  | empty
  | text (content : String)
  | json (value : Json.Value)
  | bytes (content : Bytes)
  deriving Repr, Inhabited

namespace Payload

/-- The text that a record keeps of a body. -/
def toText : Payload → String
  | empty => ""
  | text content => content
  | json value => value.render
  | bytes content => Base64.encode content

/-- The body as a value to be written: the kind is the name of its only member. -/
def toValue : Payload → Json.Value
  | empty => .text "Empty"
  | text content => .object [("Text", .text content)]
  | json value => .object [("Json", value)]
  | bytes content => .object [("Bytes", .array (content.map fun byte => .integer byte.toNat))]

/-- Reads a body from a document.  A structured value stands one level below the body, so it
may nest one level less than a value on its own. -/
def ofDocument? (document : Json.Document) : Option Payload := do
  match ← document.variant? with
  | ("Empty", none) => return empty
  | ("Empty", some .null) => return empty
  | ("Text", some content) => return text (← content.text?)
  | ("Json", some content) =>
    return json (← Json.Value.ofDocument? (Json.Value.depthLimit - 1) content)
  | ("Bytes", some content) =>
    return bytes ((← content.listOf? (Json.Document.integer? 0 255)).map fun n =>
      UInt8.ofNat n.toNat)
  | _ => none

/-- Reads a body in its short form: nothing, a text, or an object with the text of a structured
value or with the digits of bytes. -/
def ofValue? : Json.Value → Option Payload
  | .null => some empty
  | .text content => some (text content)
  | .object [("json", .text source)] => (Json.Value.ofText? source).map json
  | .object [("hex", .text digits)] => (Hex.decode? digits).map bytes
  | _ => none

end Payload

end CausalTrace
