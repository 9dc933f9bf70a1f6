import CausalTrace.Message.Causality
import CausalTrace.Storage.StoreError
import CausalTrace.Text.Quoted

/-!
# Failures of tracing

Tracing fails in its own terms; none of these failures ever reaches the delivery of a message.
Only a store that cannot be reached ends tracing for good.
-/

namespace CausalTrace

/-- The wording of a refused header text. -/
def MalformedHeader.message (refused : MalformedHeader) : String :=
  "malformed causality header (" ++ refused.reason ++ "): " ++ Quoted.render refused.excerpt

/-- Why a step of tracing failed. -/
inductive TraceError where
  | malformedHeader (refused : MalformedHeader)
  /-- There was no room in the channel within the time allowed. -/
  | channelSaturated (capacity : Nat)
  /-- The store refused a record. -/
  | persistence (cause : String)
  /-- The store could not be opened. -/
  | storeUnavailable (cause : String)
  /-- The operation does not belong to the present state. -/
  | invalidState (cause : String)
  | serialization (cause : String)
  | configuration (cause : String)
  deriving DecidableEq, Repr, Inhabited

namespace TraceError

/-- The wording of a failure. -/
def message : TraceError → String
  | malformedHeader refused => refused.message
  | channelSaturated capacity =>
    "hand-off channel saturated (capacity " ++ Decimal.render capacity ++ ")"
  | persistence cause => "persistence error: " ++ cause
  | storeUnavailable cause => "store unavailable: " ++ cause
  | invalidState cause => "invalid state: " ++ cause
  | serialization cause => "serialization error: " ++ cause
  | configuration cause => "configuration error: " ++ cause

/-- Whether tracing cannot go on at all. -/
def isFatal : TraceError → Bool
  | storeUnavailable _ => true
  | _ => false

end TraceError

end CausalTrace
