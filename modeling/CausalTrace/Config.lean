import CausalTrace.Channel
import CausalTrace.Config.Toml
import CausalTrace.Storage.Path
import CausalTrace.Storage.SyncMode
import CausalTrace.TraceError

/-!
# Settings of a pipeline

Every setting has a default, so a document may leave out any of them, but it may hold nothing
else.  A setting that a pipeline cannot run with is reported when the document is read and again
when the pipeline starts; if there are several, the first of a fixed order is reported.
-/

namespace CausalTrace

/-- What is to happen when the channel is full. -/
inductive FullRule where
  | dropNewest
  | block
  deriving DecidableEq, Repr, Inhabited

/-- When commits are to be forced to disk. -/
inductive SyncRule where
  | strict
  | batched
  | onClose
  deriving DecidableEq, Repr, Inhabited

/-- The settings of a pipeline.  Times are in milliseconds. -/
structure Config where
  /-- Where directories for runs are made. -/
  outputDirectory : String
  channelCapacity : Nat
  whenFull : FullRule
  /-- How long a hook waits for room. -/
  blockTimeout : Nat
  /-- How long the writer waits for an event before it looks again. -/
  pollInterval : Nat
  /-- How long a stop waits for the writer. -/
  drainTimeout : Nat
  /-- How often a commit is tried. -/
  commitAttempts : Nat
  sync : SyncRule
  syncBatch : Nat
  deriving DecidableEq, Repr, Inhabited

namespace Config

/-- The settings that hold where nothing is said. -/
def default : Config where
  outputDirectory := "./bustrace"
  channelCapacity := 10000
  whenFull := .dropNewest
  blockTimeout := 2
  pollInterval := 1000
  drainTimeout := 30000
  commitAttempts := 2
  sync := .batched
  syncBatch := 256

/-- Whether all settings are the same.  An output directory stays the same if its path is
written otherwise. -/
def agrees (left right : Config) : Bool :=
  Path.same left.outputDirectory right.outputDirectory
    && left == { right with outputDirectory := left.outputDirectory }

/-- The failure for a setting that must not be zero. -/
def mustBePositive (name : String) : TraceError := .configuration (name ++ " must be > 0")

/-- Whether a pipeline can run with the settings. -/
def validate (config : Config) : Except TraceError Unit :=
  if config.channelCapacity = 0 then .error (mustBePositive "channel_capacity")
  else if config.commitAttempts = 0 then .error (mustBePositive "commit_attempts")
  else if config.syncBatch = 0 then .error (mustBePositive "sync_batch_size")
  else .ok ()

/-- The policy of the channel. -/
def channelPolicy (config : Config) : Backpressure :=
  match config.whenFull with
  | .dropNewest => .dropNewest
  | .block => .block config.blockTimeout

/-- The mode of a log. -/
def syncMode (config : Config) : SyncMode :=
  match config.sync with
  | .strict => .strict
  | .batched => .batched config.syncBatch
  | .onClose => .onClose

/-- The longest time that can be set. -/
def longest : Nat := 2 ^ 64 - 1

/-- A span of time in whole milliseconds, at most the longest. -/
def milliseconds (seconds nanoseconds : Nat) : Nat :=
  min (seconds * 1000 + nanoseconds / 1000000) longest

/-! ## Settings that go together -/

/-- Drops new events when the channel is full. -/
def droppingNewest (config : Config) : Config := { config with whenFull := .dropNewest }

/-- Lets hooks wait so long for room. -/
def blocking (config : Config) (timeout : Nat) : Config :=
  { config with whenFull := .block, blockTimeout := timeout }

/-- Forces every commit to disk. -/
def strictSync (config : Config) : Config := { config with sync := .strict }

/-- Forces commits to disk after every so many. -/
def batchedSync (config : Config) (size : Nat) : Config :=
  { config with sync := .batched, syncBatch := size }

/-- Forces commits to disk at the end only. -/
def syncOnClose (config : Config) : Config := { config with sync := .onClose }

/-! ## Reading -/

/-- A number below a limit. -/
def number? (limit : Nat) : Toml.Item → Option Nat
  | .integer value => if 0 ≤ value ∧ value < limit then some value.toNat else none
  | _ => none

/-- A text. -/
def text? : Toml.Item → Option String
  | .text content => some content
  | _ => none

/-- A choice is a word, or a table whose only key is the word and has nothing as its value. -/
def word? : Toml.Item → Option String
  | .text word => some word
  | .table _ [(word, .emptyList)] => some word
  | .table _ [(word, .table _ [])] => some word
  | _ => none

/-- The rule for a full channel that a word stands for. -/
def fullRule? : String → Option FullRule
  | "drop_newest" => some .dropNewest
  | "block" => some .block
  | _ => none

/-- The rule for forcing commits that a word stands for. -/
def syncRule? : String → Option SyncRule
  | "strict" => some .strict
  | "batched" => some .batched
  | "on_close" => some .onClose
  | _ => none

/-- Changes the setting that a key names. -/
def change? (config : Config) (entry : String × Toml.Item) : Option Config :=
  let item := entry.2
  match entry.1 with
  | "output_dir" => (text? item).map fun path => { config with outputDirectory := path }
  | "channel_capacity" => (number? (2 ^ 64) item).map fun n => { config with channelCapacity := n }
  | "backpressure" =>
    ((word? item).bind fullRule?).map fun rule => { config with whenFull := rule }
  | "block_timeout_ms" => (number? (2 ^ 64) item).map fun n => { config with blockTimeout := n }
  | "poll_interval_ms" => (number? (2 ^ 64) item).map fun n => { config with pollInterval := n }
  | "drain_timeout_ms" => (number? (2 ^ 64) item).map fun n => { config with drainTimeout := n }
  | "commit_attempts" => (number? (2 ^ 32) item).map fun n => { config with commitAttempts := n }
  | "sync" => ((word? item).bind syncRule?).map fun rule => { config with sync := rule }
  | "sync_batch_size" => (number? (2 ^ 64) item).map fun n => { config with syncBatch := n }
  | _ => none

/-- The failure for a document that holds anything but settings. -/
def unreadable : TraceError := .configuration "the document does not hold settings"

/-- Reads settings from a document. -/
def ofText (text : String) : Except TraceError Config :=
  match (Toml.document? text).bind fun entries => entries.foldlM change? default with
  | none => .error unreadable
  | some config => config.validate.map fun () => config

/-- The wording for bytes that are no text. -/
def notText : String := "stream did not contain valid UTF-8"

/-- Reads settings from a file. -/
def ofFile (tree : FileTree) (path : String) : Except TraceError Config :=
  let failed (cause : String) : Except TraceError Config :=
    .error (.configuration (path ++ ": " ++ cause))
  match tree.read path with
  | .error fault => failed fault.message
  | .ok content =>
    match Utf8.decode? content with
    | none => failed notText
    | some text => ofText text

end Config

end CausalTrace
