import CausalTrace.Message.Event

/-!
# Questions of the command line
-/

namespace CausalTrace.Cli

/-- What is asked of a trace directory. -/
inductive Query where
  /-- All records in order, or those of a direction, or the first of them. -/
  | records (direction : Option Direction) (limit : Option Nat)
  /-- The record of a number. -/
  | get (id : UInt64)
  /-- The sent record of a message. -/
  | lookup (messageId : MessageId)
  /-- The records from a message back to the start of its chain. -/
  | chain (messageId : MessageId)
  /-- The sent records that name a message as a parent. -/
  | children (messageId : MessageId)
  /-- The received records of a message. -/
  | deliveries (messageId : MessageId)
  /-- Counts of all kinds. -/
  | summary
  deriving DecidableEq, Repr, Inhabited

/-- A complete command line. -/
structure Request where
  directory : String
  query : Query
  json : Bool
  verbose : Bool
  deriving DecidableEq, Repr, Inhabited

end CausalTrace.Cli
