import CausalTrace.Json.Document
import CausalTrace.Real.Shortest

/-!
# Values and their written form

A value is a document that has been judged: every string has a text, every number is an integer
of 64 bits or a double, and members of an object stand in the order in which they are written.
Reading an object of unknown shape sorts its members by name and keeps the last of equal names.
-/

namespace CausalTrace.Json

/-- A value, with the members of objects in written order. -/
inductive Value where
  | null
  | boolean (value : Bool)
  | number (value : Number)
  | text (content : String)
  | array (items : List Value)
  | object (members : List (String × Value))
  deriving Repr, Inhabited

namespace Value

/-- An integer as a value. -/
def integer (value : Int) : Value := number (.integer value)

/-- A list of texts as a value. -/
def texts (contents : List String) : Value := array (contents.map text)

/-! ## Reading -/

/-- Puts a member in its place by name, over any earlier one of the same name. -/
def insertMember (name : String) (value : Value) :
    List (String × Value) → List (String × Value)
  | [] => [(name, value)]
  | member :: rest =>
    if name < member.1 then (name, value) :: member :: rest
    else if name = member.1 then (name, value) :: rest
    else member :: insertMember name value rest

/-- The value of a document whose containers nest at most `depth` deep. -/
def ofDocument? (depth : Nat) : Document → Option Value
  | .null => some null
  | .boolean value => some (boolean value)
  | .numeral literal => literal.number?.map number
  | .text content => content.map text
  | .array items =>
    match depth with
    | 0 => none
    | depth + 1 => (ofItems? depth items).map array
  | .object members =>
    match depth with
    | 0 => none
    | depth + 1 => (ofMembers? depth members []).map object
where
  /-- The values of items in order. -/
  ofItems? (depth : Nat) : List Document → Option (List Value)
    | [] => some []
    | item :: rest =>
      (ofDocument? depth item).bind fun value => (ofItems? depth rest).map (value :: ·)
  /-- The members in name order. -/
  ofMembers? (depth : Nat) :
      List (Option String × Document) → List (String × Value) → Option (List (String × Value))
    | [], found => some found
    | (name, document) :: rest, found =>
      name.bind fun name =>
        (ofDocument? depth document).bind fun value =>
          ofMembers? depth rest (insertMember name value found)

/-- The deepest nesting of containers that a value read on its own may have. -/
def depthLimit : Nat := 127

/-- The value of a text. -/
def ofText? (source : String) : Option Value :=
  (Document.ofText? source).bind (ofDocument? depthLimit)

/-! ## Looking inside -/

/-- The member of a name.  A member that is null is as good as none. -/
def member? (name : String) : Value → Option Value
  | object members =>
    match members.lookup name with
    | some null => none
    | found => found
  | _ => none

/-- The text, if the value is one. -/
def text? : Value → Option String
  | text content => some content
  | _ => none

/-- The number, if the value is a whole number and not negative. -/
def natural? : Value → Option Nat
  | number (.integer (.ofNat value)) => some value
  | _ => none

/-- The items, if the value is a list. -/
def items? : Value → Option (List Value)
  | array items => some items
  | _ => none

/-! ## Writing -/

/-- Two hexadecimal digits. -/
def hexPair (n : Nat) : List Char :=
  [Decimal.hexDigit (n / 16), Decimal.hexDigit (n % 16)]

/-- The written form of one character of a string: only what has to be escaped is. -/
def escape (c : Char) : List Char :=
  if c = '"' then ['\\', '"']
  else if c = '\\' then ['\\', '\\']
  else if c = '\x08' then ['\\', 'b']
  else if c = '\x0c' then ['\\', 'f']
  else if c = '\n' then ['\\', 'n']
  else if c = '\r' then ['\\', 'r']
  else if c = '\t' then ['\\', 't']
  else if c.toNat < 0x20 then ['\\', 'u', '0', '0'] ++ hexPair c.toNat
  else [c]

/-- The written form of a string. -/
def quote (content : String) : List Char :=
  '"' :: content.toList.flatMap escape ++ ['"']

/-- How a double is written: the fewest digits that read back.  Numbers from `1e-5` up to below
`1e16` are positional with at least one digit on either side of the point; beyond that the
exponent is written with its sign. -/
def double (value : Double) : List Char :=
  let sign := if value.isNegative then ['-'] else []
  let (significand, exponent) := value.parts
  if significand = 0 then sign ++ ['0', '.', '0']
  else
    let (digits, place) := Shortest.decimal significand exponent
    let shown := (Decimal.render digits).toList
    let point : Int := shown.length + place
    let zeros (n : Int) : List Char := List.replicate n.toNat '0'
    sign ++
      if 0 ≤ place ∧ point ≤ 16 then shown ++ zeros place ++ ['.', '0']
      else if 0 < point ∧ point ≤ 16 then
        shown.take point.toNat ++ '.' :: shown.drop point.toNat
      else if -5 < point ∧ point ≤ 0 then ['0', '.'] ++ zeros (-point) ++ shown
      else
        let tail := shown.drop 1
        shown.take 1 ++ (if tail = [] then [] else '.' :: tail) ++ 'e'
          :: (if 0 < point then ['+'] else [])
          ++ (Decimal.renderInt (point - 1)).toList

/-- The written form of a number. -/
def digits : Number → List Char
  | .integer value => (Decimal.renderInt value).toList
  | .real value => double value

/-- Parts in order with a separator between them. -/
def separated (separator : List Char) : List (List Char) → List Char
  | [] => []
  | [part] => part
  | part :: rest => part ++ separator ++ separated separator rest

/-- The written form without any blank. -/
def compact : Value → List Char
  | null => ['n', 'u', 'l', 'l']
  | boolean true => ['t', 'r', 'u', 'e']
  | boolean false => ['f', 'a', 'l', 's', 'e']
  | number value => digits value
  | text content => quote content
  | array items => '[' :: separated [','] (compactItems items) ++ [']']
  | object members => '\x7b' :: separated [','] (compactMembers members) ++ ['\x7d']
where
  /-- The written form of each item. -/
  compactItems : List Value → List (List Char)
    | [] => []
    | item :: rest => compact item :: compactItems rest
  /-- The written form of each member. -/
  compactMembers : List (String × Value) → List (List Char)
    | [] => []
    | (name, value) :: rest => (quote name ++ ':' :: compact value) :: compactMembers rest

/-- A line break and two blanks for every level. -/
def lineBreak (level : Nat) : List Char :=
  '\n' :: List.replicate (2 * level) ' '

/-- The written form with one item or member on a line, indented by its level.  An empty
container takes no lines. -/
def pretty (level : Nat) : Value → List Char
  | array [] => ['[', ']']
  | array (item :: rest) =>
    '[' :: lineBreak (level + 1)
      ++ separated (',' :: lineBreak (level + 1)) (prettyItems (level + 1) (item :: rest))
      ++ lineBreak level ++ [']']
  | object [] => ['\x7b', '\x7d']
  | object (member :: rest) =>
    '\x7b' :: lineBreak (level + 1)
      ++ separated (',' :: lineBreak (level + 1)) (prettyMembers (level + 1) (member :: rest))
      ++ lineBreak level ++ ['\x7d']
  | value => compact value
where
  /-- The written form of each item. -/
  prettyItems (level : Nat) : List Value → List (List Char)
    | [] => []
    | item :: rest => pretty level item :: prettyItems level rest
  /-- The written form of each member. -/
  prettyMembers (level : Nat) : List (String × Value) → List (List Char)
    | [] => []
    | (name, value) :: rest =>
      (quote name ++ ':' :: ' ' :: pretty level value) :: prettyMembers level rest

/-- The compact text of a value. -/
def render (value : Value) : String := String.ofList value.compact

/-- The indented text of a value. -/
def renderPretty (value : Value) : String := String.ofList (value.pretty 0)

end Value

end CausalTrace.Json
