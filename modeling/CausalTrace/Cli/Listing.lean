import CausalTrace.Calendar
import CausalTrace.Record

/-!
# How answers are shown

Every answer has a form for people and a form for programs.  The latter is the document of the
records themselves, so it reads back to exactly what was answered.
-/

namespace CausalTrace.Cli

/-- Who an answer is for. -/
inductive Mode where
  | human
  | json
  deriving DecidableEq, Repr, Inhabited

/-- Counts over a whole trace. -/
structure Summary where
  records : Nat
  sent : Nat
  received : Nat
  /-- Received records without a message id. -/
  unlabeled : Nat
  /-- Entries of the index. -/
  indexed : Nat
  frames : Nat
  tornBytes : Nat
  deriving DecidableEq, Repr, Inhabited

namespace Listing

/-- A text, or a dash in place of an empty one. -/
def orDash (text : String) : String :=
  if text = "" then "-" else text

/-- Ids with commas between them, or a dash. -/
def idsOrDash (ids : List MessageId) : String :=
  if ids = [] then "-" else String.intercalate "," ids

/-- Fills a text up with blanks on the right. -/
def padRight (width : Nat) (text : String) : String :=
  text ++ String.ofList (List.replicate (width - text.length) ' ')

/-- Fills a text up with blanks on the left. -/
def padLeft (width : Nat) (text : String) : String :=
  String.ofList (List.replicate (width - text.length) ' ') ++ text

/-- The lines of a text.  A line break ends a line, together with a carriage return in front of
it; a last line need not have one. -/
def linesFrom (line : List Char) : List Char → List String
  | [] => if line = [] then [] else [String.ofList line.reverse]
  | '\n' :: rest =>
    let ended := match line with
      | '\r' :: before => before
      | whole => whole
    String.ofList ended.reverse :: linesFrom [] rest
  | c :: rest => linesFrom (c :: line) rest

/-- The lines of a text. -/
def lines (text : String) : List String :=
  linesFrom [] text.toList

/-- One line for a record. -/
def line (record : Record) : String :=
  String.intercalate "  " [
    padLeft 6 record.id.key,
    record.direction.word,
    Calendar.render record.time.toInt,
    padRight 16 (orDash record.messageId),
    padRight 16 (idsOrDash record.parents),
    record.address]

/-- The lines that show all fields of a record. -/
def details (record : Record) : List String :=
  ["record_id:      " ++ record.id.key,
    "message_id:     " ++ orDash record.messageId,
    "parent_ids:     " ++ idsOrDash record.parents,
    "label:          " ++ orDash record.label,
    "direction:      " ++ record.direction.word,
    "timestamp:      " ++ Calendar.render record.time.toInt,
    "target_address: " ++ record.address,
    "reply_address:  " ++ orDash record.reply]
  ++ (if record.headers = "" then []
      else "headers:" :: (lines record.headers).map fun line => "  " ++ line)
  ++ ["body:           " ++ record.body]

/-- A list of records. -/
def records (mode : Mode) (found : List Record) : String :=
  match mode with
  | .json => (Json.Value.array (found.map Record.toValue)).renderPretty
  | .human => if found = [] then "(empty)" else String.intercalate "\n" (found.map line)

/-- One record, or that there is none. -/
def record (mode : Mode) : Option Record → String
  | none => match mode with
    | .json => "null"
    | .human => "(nil)"
  | some found => match mode with
    | .json => found.toValue.renderPretty
    | .human => String.intercalate "\n" (details found)

/-- Counts over a trace. -/
def summary (mode : Mode) (counts : Summary) : String :=
  match mode with
  | .json => (Json.Value.object [
      ("indexed", .integer counts.indexed),
      ("received", .integer counts.received),
      ("records", .integer counts.records),
      ("recovered_frames", .integer counts.frames),
      ("sent", .integer counts.sent),
      ("torn_bytes", .integer counts.tornBytes),
      ("unlabeled", .integer counts.unlabeled)]).render
  | .human =>
    "records:   " ++ Decimal.render counts.records
      ++ "\nsent:      " ++ Decimal.render counts.sent
      ++ "\nreceived:  " ++ Decimal.render counts.received
      ++ " (" ++ Decimal.render counts.unlabeled ++ " unlabeled)"
      ++ "\nindexed:   " ++ Decimal.render counts.indexed
      ++ (if counts.tornBytes = 0 then ""
          else "\nwarning:   " ++ Decimal.render counts.tornBytes
            ++ " torn bytes ignored at log tail")

/-- A failure. -/
def failure (mode : Mode) (message : String) : String :=
  match mode with
  | .json => (Json.Value.object [("error", .text message)]).render
  | .human => "(error) " ++ message

end Listing

end CausalTrace.Cli
