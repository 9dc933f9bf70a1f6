import CausalTrace.Storage.Path
import CausalTrace.Text.Utf8

/-!
# Directories and files

Everything a store does to a disk is a function on a tree of directories and files.  Operations
fail as a file system does: each name on the way must lead to a directory, also when two dots lead
back out of it, and what is at the end must be of the kind that is asked for.  Every operation
that changes the tree answers with its result and the tree after it, because directories that were
made before a failure stay.

A file is more than the name it is found under.  Directories and files have numbers, and the tree
keeps the content of a file under its number, so that whoever opened the file goes on writing to
it even if the name is removed or given to another file.
-/

namespace CausalTrace

/-- Why an operation on the tree failed. -/
inductive FileFault where
  | notFound
  | exists
  | notDirectory
  | isDirectory
  | nameTooLong
  | nulInName
  deriving DecidableEq, Repr, Inhabited

namespace FileFault

/-- The wording of a failure. -/
def message : FileFault → String
  | notFound => "No such file or directory (os error 2)"
  | .exists => "File exists (os error 17)"
  | notDirectory => "Not a directory (os error 20)"
  | isDirectory => "Is a directory (os error 21)"
  | nameTooLong => "File name too long (os error 36)"
  | nulInName => "file name contained an unexpected NUL byte"

/-- The bytes that a path has at most, its end mark included. -/
def pathLimit : Nat := 4096

/-- The bytes that a name has at most. -/
def nameLimit : Nat := 255

/-- What is wrong with the text of a path, wherever it leads. -/
def ofPath? (path : String) : Option FileFault :=
  if path.toList.contains '\x00' then some nulInName
  else if path = "" then some notFound
  else if pathLimit ≤ path.utf8ByteSize then some nameTooLong
  else none

end FileFault

/-- A directory or a file, by its number. -/
inductive Node where
  | directory (number : Nat)
  | file (number : Nat)
  deriving DecidableEq, Repr, Inhabited

/-- What a path leads to. -/
inductive Place where
  /-- A node that is there. -/
  | taken (node : Node)
  /-- A name that stands for nothing in a directory that is there. -/
  | free (directory : Nat) (name : String)
  deriving DecidableEq, Repr, Inhabited

/-- A tree of directories and files.  The top directory has the number zero. -/
structure FileTree where
  /-- What the names in the directories stand for. -/
  entries : List ((Nat × String) × Node)
  /-- How many directories there are below the top. -/
  directories : Nat
  /-- The contents of the files, in the order of their numbers. -/
  contents : List Bytes
  /-- A name is never given to a file that has no content. -/
  filled : ∀ place number, (place, Node.file number) ∈ entries → number < contents.length
  deriving DecidableEq, Repr

namespace FileTree

/-- An empty top directory. -/
def empty : FileTree where
  entries := []
  directories := 0
  contents := []
  filled := by simp

instance : Inhabited FileTree := ⟨empty⟩

/-- What a name in a directory stands for. -/
def node? (tree : FileTree) (directory : Nat) (name : String) : Option Node :=
  tree.entries.lookup (directory, name)

/-- The content of the file with a number. -/
def content (tree : FileTree) (number : Nat) : Bytes := tree.contents.getD number []

/-- Replaces the content of the file with a number. -/
def fill (tree : FileTree) (number : Nat) (content : Bytes) : FileTree :=
  { tree with
    contents := tree.contents.set number content
    filled := by simpa using tree.filled }

/-- Puts an empty directory under a free name. -/
def addDirectory (tree : FileTree) (directory : Nat) (name : String) : FileTree :=
  let number := tree.directories + 1
  { tree with
    entries := ((directory, name), .directory number) :: tree.entries
    directories := number
    filled := by simpa using tree.filled }

/-- Puts an empty file under a free name.  Its number is the next one. -/
def addFile (tree : FileTree) (directory : Nat) (name : String) : FileTree :=
  { tree with
    entries := ((directory, name), .file tree.contents.length) :: tree.entries
    contents := tree.contents ++ [[]]
    filled := by
      intro place number present
      rw [List.length_append, List.length_singleton]
      rcases List.mem_cons.1 present with new | old
      · cases new
        exact Nat.lt_succ_self _
      · exact Nat.lt_succ_of_lt (tree.filled place number old) }

/-- Where names lead from a directory, which is in the directories `above`, the nearest first.  The
top is above itself.  A name is looked up only in a directory that is there, and only a name that
is looked up can be too long. -/
def locate (tree : FileTree) (here : Nat) (above : List Nat) :
    List String → Except FileFault Place
  | [] => .ok (.taken (.directory here))
  | name :: rest =>
    if name = "." then tree.locate here above rest
    else if name = ".." then tree.locate (above.headD here) above.tail rest
    else if FileFault.nameLimit < name.utf8ByteSize then .error .nameTooLong
    else
      match tree.node? here name with
      | none => if rest = [] then .ok (.free here name) else .error .notFound
      | some (.file number) =>
        if rest = [] then .ok (.taken (.file number)) else .error .notDirectory
      | some (.directory number) => tree.locate number (here :: above) rest

/-- Where names lead from the top. -/
def follow (tree : FileTree) (names : List String) : Except FileFault Place :=
  tree.locate 0 [] names

/-- Where a path leads. -/
def resolve (tree : FileTree) (path : String) : Except FileFault Place :=
  match FileFault.ofPath? path with
  | some fault => .error fault
  | none => tree.follow (Path.names path)

/-- Whether a path leads to a directory. -/
def isDirectory (tree : FileTree) (path : String) : Bool :=
  match tree.resolve path with
  | .ok (.taken (.directory _)) => true
  | _ => false

/-- Makes one directory. -/
def makeDirectory (tree : FileTree) (path : String) : Except FileFault Unit × FileTree :=
  match tree.resolve path with
  | .error fault => (.error fault, tree)
  | .ok (.taken _) => (.error .exists, tree)
  | .ok (.free directory name) => (.ok (), tree.addDirectory directory name)

/-- Makes the directory that names lead to, or finds it. -/
def ensure (tree : FileTree) (names : List String) : Except FileFault Unit × FileTree :=
  match tree.follow names with
  | .error fault => (.error fault, tree)
  | .ok (.taken (.directory _)) => (.ok (), tree)
  | .ok (.taken (.file _)) => (.error .exists, tree)
  | .ok (.free directory name) => (.ok (), tree.addDirectory directory name)

/-- Makes or finds the first of several directories.  If the way to it is missing, the others
are made first. -/
def ensureAll (tree : FileTree) : List (List String) → Except FileFault Unit × FileTree
  | [] => (.ok (), tree)
  | inner :: outer =>
    match tree.ensure inner with
    | (.error .notFound, tree) =>
      match tree.ensureAll outer with
      | (.ok (), tree) => tree.ensure inner
      | failed => failed
    | settled => settled

/-- Makes a directory and every directory on the way to it.  The empty path is already there. -/
def makeDirectories (tree : FileTree) (path : String) : Except FileFault Unit × FileTree :=
  if path = "" then (.ok (), tree)
  else
    match FileFault.ofPath? path with
    | some fault => (.error fault, tree)
    | none => tree.ensureAll (Path.ancestors (Path.names path))

/-- The number of a file that is there. -/
def file (tree : FileTree) (path : String) : Except FileFault Nat :=
  match tree.resolve path with
  | .error fault => .error fault
  | .ok (.free _ _) => .error .notFound
  | .ok (.taken (.directory _)) => .error .isDirectory
  | .ok (.taken (.file number)) =>
    if Path.endsInSlash path then .error .notDirectory else .ok number

/-- The content of a file. -/
def read (tree : FileTree) (path : String) : Except FileFault Bytes :=
  (tree.file path).map tree.content

/-- The number of a file that is made empty if it is not there. -/
def openFile (tree : FileTree) (path : String) : Except FileFault Nat × FileTree :=
  match tree.resolve path with
  | .error fault => (.error fault, tree)
  | .ok place =>
    if Path.endsInSlash path then (.error .isDirectory, tree)
    else
      match place with
      | .taken (.directory _) => (.error .isDirectory, tree)
      | .taken (.file number) => (.ok number, tree)
      | .free directory name => (.ok tree.contents.length, tree.addFile directory name)

/-- Replaces the content of a file, or makes the file. -/
def write (tree : FileTree) (path : String) (content : Bytes) :
    Except FileFault Unit × FileTree :=
  match tree.openFile path with
  | (.ok number, tree) => (.ok (), tree.fill number content)
  | (.error fault, tree) => (.error fault, tree)

/-- Removes the name of a file.  Its content stays under its number. -/
def remove (tree : FileTree) (path : String) : Except FileFault Unit × FileTree :=
  match tree.file path with
  | .error fault => (.error fault, tree)
  | .ok number =>
    (.ok (), { tree with
      entries := tree.entries.filter fun entry => entry.2 != .file number
      filled := fun place other present =>
        tree.filled place other ((List.mem_filter.1 present).1) })

end FileTree

end CausalTrace
