import Highlighting.LineReader

/-!
# Files

What the program sees of the file system is small: the working directory, if there still is one,
and for each absolute path whether a regular file is there and what reading it gives (`FileSystem`).

`FileTree` is a file system held in memory.  Its paths are followed as usual: a component can only
be taken from a directory, `.` and the empty component stay there, `..` goes up, and a symbolic link
is replaced by its target, which starts from the directory that holds the link unless it is
absolute.  A path that ends in a slash therefore never names a file.  Neither does one that is too
long, or that leads through too many links.
-/

namespace Highlighting

/-- What there is at a path. -/
inductive FileStatus
  /-- No regular file. -/
  | absent
  /-- A regular file that cannot be opened. -/
  | unreadable (failure : IoFailure)
  | readable (input : Input)

/-- A view of the file system. -/
structure FileSystem where
  /-- The working directory, or why there is none. -/
  workingDirectory : Except IoFailure Text
  lookup : Text → FileStatus

/-- The absolute path for a path: itself, or what follows the working directory. -/
def FileSystem.absolute (files : FileSystem) (path : Text) : Except IoFailure Text :=
  if path.head? = some '/' then .ok path
  else files.workingDirectory.map fun directory =>
    if directory.getLast? = some '/' then directory ++ path else directory ++ ['/'] ++ path

/-- An entry of a file tree. -/
inductive FileNode
  | file (content : Bytes)
  | directory
  | link (target : Text)
  deriving Repr, DecidableEq

/-- A file tree: its entries by their names from the root. -/
abbrev FileTree := List (List Text × FileNode)

namespace FileTree

/-- The components of a path, empty ones included. -/
def components (path : Text) : List Text := path.splitOnP (· == '/')

/-- The names in a path that has neither links nor dots. -/
def names (path : Text) : List Text := (components path).filter (!·.isEmpty)

/-- How many symbolic links are followed in one path. -/
def maxLinks : Nat := 40

/-- How many bytes a path that can be followed may have, and one more. -/
def pathLimit : Nat := 4096

/-- How many bytes a name may have. -/
def maxNameSize : Nat := 255

/-- Where the target of a link starts from, for a link in a directory. -/
def linkStart (directory : List Text) (target : Text) : List Text :=
  if target.head? = some '/' then [] else directory

/-- The names from the root under which a path enters something new: links on the way are followed,
and names that are not there yet are taken as they are. -/
def place (tree : FileTree) (links : Nat) (here : List Text) : List Text → List Text
  | [] => here
  | name :: rest =>
    if name = [] ∨ name = ['.'] then tree.place links here rest
    else if name = ['.', '.'] then tree.place links here.dropLast rest
    else match tree.lookup (here ++ [name]), links with
      | some (.link target), links + 1 =>
        tree.place links (linkStart here target) (components target ++ rest)
      | _, links => tree.place links (here ++ [name]) rest
termination_by rest => (links, rest.length)

/-- Adds an entry, and the directories that lead to it.  What is written to a link goes to its
target; a link itself is entered where its path says. -/
def insert (tree : FileTree) (path : Text) (node : FileNode) : FileTree :=
  let names := names path
  let place := match node with
    | .link _ => tree.place maxLinks [] names.dropLast ++ names.getLast?.toList
    | _ => tree.place maxLinks [] names
  let parents := (List.range place.length).map fun n => (place.take n, FileNode.directory)
  (place, node) :: (parents.filter fun entry => (tree.lookup entry.1).isNone) ++ tree

/-- Follows components from a directory or file to what they name. -/
def follow (tree : FileTree) (links : Nat) (here : List Text) : List Text → Option FileNode
  | [] => tree.lookup here
  | name :: rest =>
    if tree.lookup here ≠ some .directory ∨ maxNameSize < name.byteSize then none
    else if name = [] ∨ name = ['.'] then tree.follow links here rest
    else if name = ['.', '.'] then tree.follow links here.dropLast rest
    else match tree.lookup (here ++ [name]), links with
      | none, _ | some (.link _), 0 => none
      | some (.link target), links + 1 =>
        tree.follow links (linkStart here target) (components target ++ rest)
      | some _, links => tree.follow links (here ++ [name]) rest
termination_by rest => (links, rest.length)

/-- The file system that a tree makes. -/
def fileSystem (tree : FileTree) (workingDirectory : Text) : FileSystem where
  workingDirectory := .ok workingDirectory
  lookup path :=
    if pathLimit ≤ path.byteSize then .absent
    else
      match tree.follow maxLinks [] (components path) with
      | some (.file content) => .readable [.data content]
      | _ => .absent

end FileTree

end Highlighting
