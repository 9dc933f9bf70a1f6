import CausalTrace.TraceError

/-!
# Failures as callers see them

Callers of the library meet one kind of failure, whether it arose in tracing, in a store or in
reading a header.  Each kind answers three questions: is tracing over, is it worth trying again,
is the configuration to blame.
-/

namespace CausalTrace

/-- A failure of the library. -/
inductive Error where
  | malformedHeader (cause : String)
  | channelSaturated (capacity : Nat)
  | persistence (cause : String)
  | storeUnavailable (cause : String)
  | storage (cause : String)
  | invalidState (cause : String)
  | configuration (cause : String)
  | io (cause : String)
  | serialization (cause : String)
  deriving DecidableEq, Repr, Inhabited

namespace Error

/-- The wording of a failure. -/
def message : Error → String
  | malformedHeader cause => "malformed header: " ++ cause
  | channelSaturated capacity => "channel saturated (capacity " ++ Decimal.render capacity ++ ")"
  | persistence cause => "persistence error: " ++ cause
  | storeUnavailable cause => "store unavailable: " ++ cause
  | storage cause => "storage error: " ++ cause
  | invalidState cause => "invalid state: " ++ cause
  | configuration cause => "config error: " ++ cause
  | io cause => "I/O error: " ++ cause
  | serialization cause => "serialization error: " ++ cause

/-- Whether tracing is over. -/
def isFatal : Error → Bool
  | storeUnavailable _ => true
  | _ => false

/-- Whether the same step may succeed later. -/
def isRetryable : Error → Bool
  | channelSaturated _ => true
  | persistence _ => true
  | _ => false

/-- Whether the configuration is to blame. -/
def isConfiguration : Error → Bool
  | configuration _ => true
  | _ => false

/-- A refused header text. -/
def ofMalformed (refused : MalformedHeader) : Error :=
  malformedHeader refused.message

/-- A failure of tracing. -/
def ofTrace : TraceError → Error
  | .malformedHeader refused => ofMalformed refused
  | .channelSaturated capacity => channelSaturated capacity
  | .persistence cause => persistence cause
  | .storeUnavailable cause => storeUnavailable cause
  | .invalidState cause => invalidState cause
  | .serialization cause => serialization cause
  | .configuration cause => configuration cause

/-- A failure of a store. -/
def ofStore (failure : StoreError) : Error :=
  match failure with
  | .unavailable _ _ => storeUnavailable failure.message
  | .io cause => io cause
  | .corruption _ _ => storage failure.message
  | .closed => invalidState "store closed"
  | .rejected reason => persistence reason

end Error

end CausalTrace
