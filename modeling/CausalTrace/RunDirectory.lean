import CausalTrace.Calendar
import CausalTrace.Storage.FileTree

/-!
# Directories for runs

Each run gets a directory of its own, named for the time of its start.  If that name is taken, a
number is put behind it, the smallest that is free.

An account that is to be the same for every run has nines in place of the times in such names, and
leaves out the numbers.
-/

namespace CausalTrace.RunDirectory

/-- What every name starts with. -/
def mark : String := "bustrace-"

/-- The name for a time, in milliseconds since the start of 1970. -/
def name (clock : Int64) : String :=
  mark ++ Calendar.renderParts clock.toInt "" "T" "" ++ "Z"

/-- The name with a number behind it; the first name has none. -/
def numbered (name : String) (number : Nat) : String :=
  if number = 0 then name else name ++ "-" ++ Decimal.render number

/-- How many names are tried. -/
def names : Nat := 1000

/-- Makes the directory with the first free name, of which `left` remain to be tried. -/
def makeFrom (tree : FileTree) (parent name : String) :
    (left : Nat) → Except String (String × FileTree)
  | 0 => .error ("no free run directory for " ++ name)
  | left + 1 =>
    let path := Path.join parent (numbered name (names - (left + 1)))
    match tree.makeDirectory path with
    | (.ok (), tree) => .ok (path, tree)
    | (.error .exists, _) => makeFrom tree parent name left
    | (.error fault, _) => .error fault.message

/-- Makes a directory for a run, and the directory that it is in.  Gives its path, or the wording
of what went wrong. -/
def make (tree : FileTree) (parent : String) (clock : Int64) :
    Except String String × FileTree :=
  match tree.makeDirectories parent with
  | (.error fault, tree) => (.error fault.message, tree)
  | (.ok (), tree) =>
    match makeFrom tree parent (name clock) names with
    | .ok (path, tree) => (.ok path, tree)
    | .error cause => (.error cause, tree)

/-! ## Hiding times -/

/-- How the time in a name is written, nines standing for digits. -/
def timeShape : List Char := "99999999T999999.999Z".toList

/-- What comes after a name: the text without the number, if it begins with one. -/
def afterNumber : List Char → List Char
  | '-' :: digit :: rest =>
    if digit.isDigit then rest.dropWhile Char.isDigit else '-' :: digit :: rest
  | text => text

/-- What comes after a mark, with the time hidden if one stands there. -/
def hideTime (text : String) : String :=
  let shape := (text.toList.take timeShape.length).map fun c => if c.isDigit then '9' else c
  if shape = timeShape then
    String.ofList (timeShape ++ afterNumber (text.toList.drop timeShape.length))
  else text

/-- A text with the times hidden in all names that stand in it. -/
def hideTimes (text : String) : String :=
  match text.splitOn mark with
  | [] => text
  | before :: parts => mark.intercalate (before :: parts.map hideTime)

end CausalTrace.RunDirectory
