import CausalTrace.Cli.Query
import CausalTrace.Text.Decimal

/-!
# Reading the command line

The words before the name of a query give the directory, those after it belong to the query.
Switches may stand on either side, once on each.  After two dashes every word is an operand; in
front of the query this leaves no word that could name one.

Reading goes from left to right and stops at the first word that is out of place or asks for
help, so help is shown only if everything before it is in order.
-/

namespace CausalTrace.Cli

/-- Why reading stopped without a request. -/
inductive Stop where
  | usage
  | help
  | version
  deriving DecidableEq, Repr, Inhabited

/-- The switches of one side of the query. -/
structure Switches where
  json : Bool
  verbose : Bool
  deriving DecidableEq, Repr, Inhabited

namespace Switches

/-- None set. -/
def off : Switches := ⟨false, false⟩

/-- Sets a switch that is not set yet. -/
def setJson (switches : Switches) : Except Stop Switches :=
  if switches.json then .error .usage else .ok { switches with json := true }

/-- Sets a switch that is not set yet. -/
def setVerbose (switches : Switches) : Except Stop Switches :=
  if switches.verbose then .error .usage else .ok { switches with verbose := true }

/-- A cluster of letters after one dash.  The version is known only in front of the query. -/
def letters (inFront : Bool) (switches : Switches) : List Char → Except Stop Switches
  | [] => .ok switches
  | 'v' :: rest => switches.setVerbose.bind fun switches => letters inFront switches rest
  | 'h' :: _ => .error .help
  | 'V' :: _ => .error (if inFront then .version else .usage)
  | _ => .error .usage

/-- A name after two dashes. -/
def name (inFront : Bool) (switches : Switches) (name : String) : Except Stop Switches :=
  match name with
  | "json" => switches.setJson
  | "verbose" => switches.setVerbose
  | "help" => .error .help
  | "version" => .error (if inFront then .version else .usage)
  | _ => .error .usage

end Switches

/-- What a word is by its form. -/
inductive Word where
  /-- Two dashes alone. -/
  | terminator
  /-- A name after two dashes and, after an equals sign, a value. -/
  | long (name : String) (value : Option String)
  /-- Letters after one dash. -/
  | short (letters : List Char)
  | operand (text : String)
  deriving DecidableEq, Repr, Inhabited

/-- The form of a word. A single dash is an operand. -/
def Word.ofText (text : String) : Word :=
  match text.toList with
  | ['-', '-'] => .terminator
  | '-' :: '-' :: rest =>
    .long (String.ofList (rest.takeWhile (· ≠ '=')))
      (match rest.dropWhile (· ≠ '=') with
      | [] => none
      | _ :: value => some (String.ofList value))
  | '-' :: first :: rest => .short (first :: rest)
  | _ => .operand text

/-- The names of the queries. -/
inductive Command where
  | records
  | get
  | lookup
  | chain
  | children
  | deliveries
  | summary
  deriving DecidableEq, Repr, Inhabited

namespace Command

/-- The command of a name. -/
def ofName? : String → Option Command
  | "records" => some records
  | "get" => some get
  | "lookup" => some lookup
  | "chain" => some chain
  | "children" => some children
  | "deliveries" => some deliveries
  | "summary" => some summary
  | _ => none

/-- Whether a command has one operand or none. -/
def takesOperand : Command → Bool
  | records => false
  | summary => false
  | _ => true

end Command

/-- What was read of the words after the name of a query. -/
structure Details where
  switches : Switches
  direction : Option Direction
  limit : Option Nat
  operand : Option String
  deriving DecidableEq, Repr, Inhabited

namespace Details

/-- Nothing read yet. -/
def none_ : Details := ⟨.off, none, none, none⟩

/-- Takes an operand. -/
def takeOperand (command : Command) (details : Details) (text : String) : Except Stop Details :=
  if !command.takesOperand || details.operand.isSome then .error .usage
  else if command = .get ∧ (Decimal.parse? (2 ^ 64) text).isNone then .error .usage
  else .ok { details with operand := some text }

/-- Takes the value of an option of the record list. -/
def takeValue (details : Details) (name value : String) : Except Stop Details :=
  match name with
  | "direction" =>
    match details.direction, Direction.ofWord? value with
    | none, some direction => .ok { details with direction := some direction }
    | _, _ => .error .usage
  | "limit" =>
    match details.limit, Decimal.parse? (2 ^ 64) value with
    | none, some limit => .ok { details with limit := some limit }
    | _, _ => .error .usage
  | _ => .error .usage

/-- Whether a name is that of an option with a value. -/
def isOption (command : Command) (name : String) : Bool :=
  command = .records && (name = "direction" || name = "limit")

/-- Takes operands only. -/
def readOperands (command : Command) (details : Details) : List String → Except Stop Details
  | [] => .ok details
  | word :: rest =>
    (details.takeOperand command word).bind fun details => readOperands command details rest

/-- Reads the words after the name of a query. -/
def read (command : Command) (details : Details) : List String → Except Stop Details
  | [] => .ok details
  | word :: rest =>
    match Word.ofText word with
    | .terminator => readOperands command details rest
    | .operand text =>
      (details.takeOperand command text).bind fun details => read command details rest
    | .short letters =>
      (details.switches.letters false letters).bind fun switches =>
        read command { details with switches } rest
    | .long name value =>
      if isOption command name then
        match value, rest with
        | some value, rest =>
          (details.takeValue name value).bind fun details => read command details rest
        | none, [] => .error .usage
        | none, next :: rest =>
          match Word.ofText next with
          | .operand value =>
            (details.takeValue name value).bind fun details => read command details rest
          | _ => .error .usage
      else if value.isSome then .error .usage
      else
        (details.switches.name false name).bind fun switches =>
          read command { details with switches } rest

/-- The query of a command with its details. -/
def query (command : Command) (details : Details) : Except Stop Query :=
  match command, details.operand with
  | .records, _ => .ok (.records details.direction details.limit)
  | .summary, _ => .ok .summary
  | _, none => .error .usage
  | .get, some text =>
    match Decimal.parse? (2 ^ 64) text with
    | some id => .ok (.get (UInt64.ofNat id))
    | none => .error .usage
  | .lookup, some text => .ok (.lookup text)
  | .chain, some text => .ok (.chain text)
  | .children, some text => .ok (.children text)
  | .deliveries, some text => .ok (.deliveries text)

end Details

/-- Whether help may be asked for the words after `help`: no word, or one that names a query
or help itself. -/
def isHelpTopic : List String → Bool
  | [] => true
  | [word] => word = "help" || (Command.ofName? word).isSome
  | _ => false

/-- Reads a whole command line; `directory` and `switches` are what was read so far. -/
def Request.read (directory : Option String) (switches : Switches) :
    List String → Except Stop Request
  | [] => .error .usage
  | word :: rest =>
    match Command.ofName? word with
    | some command => do
      let details ← Details.none_.read command rest
      let query ← details.query command
      match directory with
      | none => .error .usage
      | some directory =>
        .ok {
          directory
          query
          json := switches.json || details.switches.json
          verbose := switches.verbose || details.switches.verbose }
    | none =>
      if word = "help" then .error (if isHelpTopic rest then .help else .usage)
      else
        match Word.ofText word with
        | .terminator => .error .usage
        | .operand text =>
          if directory.isSome then .error .usage else Request.read (some text) switches rest
        | .short letters =>
          (switches.letters true letters).bind fun switches =>
            Request.read directory switches rest
        | .long name value =>
          if value.isSome then .error .usage
          else
            (switches.name true name).bind fun switches => Request.read directory switches rest

/-- The request of a command line. -/
def Request.ofArguments (arguments : List String) : Except Stop Request :=
  Request.read none .off arguments

end CausalTrace.Cli
