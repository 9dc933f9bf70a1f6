/-!
# Paths

A path is a text; slashes part the names on the way to what it leads to, and several slashes part
no more than one.  A dot names the directory it stands in and two dots the one above.  Slashes at
the end lead nowhere else, but they ask for a directory.
-/

namespace CausalTrace.Path

/-- The pieces between slashes, the empty ones included. -/
def pieces : List Char → List (List Char)
  | [] => [[]]
  | c :: rest => if c = '/' then [] :: pieces rest else (pieces rest).modifyHead (c :: ·)

/-- The names in a path. -/
def names (path : String) : List String :=
  ((pieces path.toList).filter (· ≠ [])).map String.ofList

/-- What is left of a path without the slashes and dots that lead nowhere: whether it starts at the
top, and its names.  Of the dots only one at the very start counts, where a path that starts at the
top has none. -/
def parts (path : String) : Bool × List String :=
  if path.toList.head? = some '/' then (true, (names path).filter (· ≠ "."))
  else
    match names path with
    | "." :: rest => (false, "." :: rest.filter (· ≠ "."))
    | rest => (false, rest.filter (· ≠ "."))

/-- Whether two texts are the same path. -/
def same (left right : String) : Bool := parts left = parts right

/-- Whether slashes stand at the end. -/
def endsInSlash (path : String) : Bool :=
  path.toList.getLast? = some '/'

/-- The path of a name within a directory. -/
def join (directory name : String) : String :=
  if directory = "" then name
  else if endsInSlash directory then directory ++ name
  else directory ++ "/" ++ name

/-- The non-empty beginnings of a way, the longest first. -/
def beginnings : List String → List (List String)
  | [] => []
  | name :: rest => (beginnings rest).map (name :: ·) ++ [[name]]

/-- The names of a path, and of each directory that its text puts around it, from the inside
outwards.  A dot has no directory of its own around it. -/
def ancestors (names : List String) : List (List String) :=
  names :: beginnings (names.filter (· ≠ ".")).dropLast

end CausalTrace.Path
