import CausalTrace.Cli.Arguments
import CausalTrace.Cli.Listing
import CausalTrace.Inspect
import CausalTrace.Storage.LogStore

/-!
# Answering the command line

A request is answered from a snapshot of the log in its directory.
-/

namespace CausalTrace.Cli

/-- What a command line leaves behind: its exit code, what it prints and what it reports. -/
structure Outcome where
  code : Nat
  output : String
  report : String
  deriving DecidableEq, Repr, Inhabited

/-- Whether a record is of a direction that is asked for. -/
def isOf (direction : Option Direction) (record : Record) : Bool :=
  direction.all fun wanted => record.direction = wanted

/-- The first records of a direction. -/
def select (direction : Option Direction) (limit : Option Nat) (all : List Record) :
    List Record :=
  let chosen := all.filter (isOf direction)
  match limit with
  | some limit => chosen.take limit
  | none => chosen

/-- The counts of a trace. -/
def summarize (snapshot : LogSnapshot) (all : List Record) : Summary where
  records := all.length
  sent := all.countP fun record => record.direction = .sent
  received := all.countP fun record => record.direction = .received
  unlabeled := all.countP fun record => record.direction = .received && record.messageId = ""
  indexed := snapshot.contents.count Record.indexPartition
  frames := snapshot.recovery.frames
  tornBytes := snapshot.recovery.tornBytes

/-- The answer to a query. -/
def Query.answer (mode : Mode) (snapshot : LogSnapshot) : Query → Except TraceError String
  | .records direction limit =>
    (Inspect.records snapshot.contents).map fun all =>
      Listing.records mode (select direction limit all)
  | .get id => (Inspect.record snapshot.contents id).map (Listing.record mode)
  | .lookup id => (Inspect.lookup snapshot.contents id).map (Listing.record mode)
  | .chain id => (Inspect.chain snapshot.contents id).map (Listing.records mode)
  | .children id => (Inspect.children snapshot.contents id).map (Listing.records mode)
  | .deliveries id => (Inspect.deliveries snapshot.contents id).map (Listing.records mode)
  | .summary =>
    (Inspect.records snapshot.contents).map fun all =>
      Listing.summary mode (summarize snapshot all)

/-- Who a request wants its answer for. -/
def Request.mode (request : Request) : Mode :=
  if request.json then .json else .human

/-- What a request leaves behind, given the snapshot of its directory. -/
def Request.answer (request : Request) (snapshot : Except StoreError LogSnapshot) : Outcome :=
  let failed (message : String) : Outcome := ⟨1, "", Listing.failure request.mode message ++ "\n"⟩
  match snapshot with
  | .error failure => failed failure.message
  | .ok snapshot =>
    match request.query.answer request.mode snapshot with
    | .error failure => failed failure.message
    | .ok text => ⟨0, text ++ "\n", ""⟩

/-- The name and the version of the command. -/
def versionText : String := "bustrace 0.1.0"

/-- How the command is used. -/
def usageText : String :=
  String.intercalate "\n" [
    "Usage: bustrace [--json] [-v|--verbose] <dir> <command>",
    "",
    "Commands:",
    "  records [--direction sent|received] [--limit <n>]",
    "  get <record_id>",
    "  lookup <message_id>",
    "  chain <message_id>",
    "  children <message_id>",
    "  deliveries <message_id>",
    "  summary",
    ""]

/-- What a command line leaves behind that is no request. -/
def Stop.outcome : Stop → Outcome
  | usage => ⟨2, "", usageText⟩
  | help => ⟨0, usageText, ""⟩
  | version => ⟨0, versionText ++ "\n", ""⟩

/-- What a command line leaves behind, given how directories are read. -/
def answer (arguments : List String) (read : String → Except StoreError LogSnapshot) : Outcome :=
  match Request.ofArguments arguments with
  | .error stop => stop.outcome
  | .ok request => request.answer (read request.directory)

end CausalTrace.Cli
