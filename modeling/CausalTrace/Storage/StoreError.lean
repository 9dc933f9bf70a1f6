import CausalTrace.Storage.FileTree
import CausalTrace.Text.Decimal

/-!
# Failures of a store
-/

namespace CausalTrace

/-- Why a store could not be opened, read or written. -/
inductive StoreError where
  /-- The place of the store cannot be used. -/
  | unavailable (path cause : String)
  | io (cause : String)
  /-- The log is damaged before its tail. -/
  | corruption (offset : Nat) (reason : String)
  | closed
  /-- The store refused a batch. -/
  | rejected (reason : String)
  deriving DecidableEq, Repr, Inhabited

namespace StoreError

/-- The wording of a failure. -/
def message : StoreError → String
  | unavailable path cause => "cannot open store at " ++ path ++ ": " ++ cause
  | io cause => "I/O error: " ++ cause
  | corruption offset reason =>
    "corruption at offset " ++ Decimal.render offset ++ ": " ++ reason
  | closed => "store is closed"
  | rejected reason => "write rejected: " ++ reason

/-- Whether the store could not be reached at all. -/
def isUnavailable : StoreError → Bool
  | unavailable _ _ => true
  | _ => false

/-- The place of a store failed. -/
def ofFile (path : String) (fault : FileFault) : StoreError :=
  unavailable path fault.message

end StoreError

end CausalTrace
