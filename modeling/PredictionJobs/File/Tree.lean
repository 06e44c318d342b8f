import PredictionJobs.File

/-! # File trees

Where a path leads in a tree of files and directories. A path is followed name by name. It goes on
only from a directory: at an empty name and a single dot it stays, at two dots it goes up, and
nothing is above the root.
-/

namespace PredictionJobs

/-- Files and directories, by the names on their paths from the root. The directories around them
are there too. -/
structure FileTree where
  files : List (List String × List UInt8)
  directories : List (List String)
  /-- Further files, which cannot be read. -/
  sealed : List (List String × SystemFault) := []

namespace FileTree

/-- The greatest number of bytes of a name, and of a path. -/
def maxNameBytes : Nat := 255

def maxPathBytes : Nat := 4095

def isDirectory (tree : FileTree) (names : List String) : Bool :=
  names.isEmpty ||
    (tree.directories ++ tree.files.map (·.1.dropLast) ++ tree.sealed.map (·.1.dropLast)).any
      names.isPrefixOf

def stateAt (tree : FileTree) (names : List String) : FileState :=
  match tree.files.find? (·.1 = names), tree.sealed.find? (·.1 = names) with
  | some (_, bytes), _ => .content bytes
  | none, some (_, fault) => .sealed fault
  | none, none => if tree.isDirectory names then .directory else .missing

/-- Where `names` lead to from `here`. -/
def follow (tree : FileTree) (here : List String) : List String → FileState
  | [] => tree.stateAt here
  | name :: names =>
    match tree.stateAt here with
    | .directory =>
      if name = "" ∨ name = "." then tree.follow here names
      else if name = ".." then tree.follow here.dropLast names
      else if maxNameBytes < name.utf8ByteSize then .overlong
      else tree.follow (here ++ [name]) names
    | .content _ | .sealed _ => .behindFile
    | state => state

def namesOf (path : String) : List String :=
  (path.toList.splitOnP (· == '/')).map String.ofList

/-- What stands under a path, which starts from `here` unless it is absolute. -/
def lookUp (tree : FileTree) (here : List String) (path : String) : FileState :=
  if path.toList.contains '\x00' then .unwritable
  else if path.isEmpty then .missing
  else if maxPathBytes < path.utf8ByteSize then .overlong
  else tree.follow (if path.toList.head? = some '/' then [] else here) (namesOf path)

end FileTree

end PredictionJobs
