import CausalTrace.Cli.Answer

/-!
# The command `bustrace`

Reads the log of the directory that is asked about and prints the answer.
-/

namespace CausalTrace

/-- The failure of reading a file, as the file system tells it.  A way through a file is noticed
on opening, which knows the name, and a directory on reading, which does not; a zero byte is
noticed before the file system is asked. -/
def describe : IO.Error → String
  | .noFileOrDirectory _ _ _ => FileFault.notFound.message
  | .inappropriateType (some _) _ _ => FileFault.notDirectory.message
  | .inappropriateType none _ _ => FileFault.isDirectory.message
  | .invalidArgument _ 22 _ => FileFault.nulInName.message
  | .invalidArgument _ _ _ => FileFault.nameTooLong.message
  | failure => toString failure

/-- The snapshot of a directory on disk. -/
def readDirectory (directory : String) : IO (Except StoreError LogSnapshot) := do
  let path := LogStore.filePath directory
  try
    let content ← IO.FS.readBinFile path
    return (LogSnapshot.ofLog directory content.data.toList).mapError LogStore.corruption
  catch failure => return .error (.unavailable path (describe failure))

end CausalTrace

open CausalTrace in
/-- Answers one command line. -/
def main (arguments : List String) : IO UInt32 := do
  match Cli.Request.ofArguments arguments with
  | .error stop => finish stop.outcome
  | .ok request => finish (request.answer (← readDirectory request.directory))
where
  /-- Prints what a command line leaves behind. -/
  finish (outcome : Cli.Outcome) : IO UInt32 := do
    (← IO.getStdout).putStr outcome.output
    (← IO.getStderr).putStr outcome.report
    return UInt32.ofNat outcome.code
