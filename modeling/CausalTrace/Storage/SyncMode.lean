/-!
# When commits are forced to disk

A log trades the cost of a commit against what a crash may take with it.
-/

namespace CausalTrace

/-- When a log forces its commits to disk. -/
inductive SyncMode where
  | onClose
  | strict
  | batched (size : Nat)
  deriving DecidableEq, Repr, Inhabited

namespace SyncMode

/-- The mode of a log for which none is chosen. -/
def default : SyncMode := batched 256

/-- Whether every commit is forced on its own. -/
def isImmediate : SyncMode → Bool
  | strict => true
  | _ => false

/-- Whether a commit that makes `pending` commits wait is forced. A batch has at least one. -/
def forces (mode : SyncMode) (pending : Nat) : Bool :=
  match mode with
  | onClose => false
  | strict => true
  | batched size => max size 1 ≤ pending

/-- What a mode offers, in words. -/
def description : SyncMode → String
  | onClose => "fsync on close (fastest, run lost on crash)"
  | strict => "fsync every commit (safest, slowest)"
  | batched _ => "batched fsync (balanced speed/safety)"

end SyncMode

end CausalTrace
