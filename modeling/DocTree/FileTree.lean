/-
Files in memory.

A `FileTree` lists the directories and files that exist, by their names from the
root.  A path is followed name by name as a file system does: every name on the way,
also one that a `..` takes back, has to be an existing directory.

File systems bound the length of a name, and of a path as a whole, in bytes; a name is
measured only when the directory in which it is looked up exists.
-/
import DocTree.Path

namespace DocTree

/-- What a path leads to. -/
inductive Contents where
  | missing
  /-- a name on the way, or the path itself, is longer than a file system allows -/
  | tooLong
  | directory
  | file (bytes : List UInt8)
deriving DecidableEq, Repr

/-- The surroundings in which files are read: the working directory, by its
names from the root, and what stands under each path. -/
structure Surroundings where
  cwd : List Text
  read : Path → Contents

/-- The entries that exist, with their names from the root. -/
structure FileTree where
  cwd : List Text
  entries : List (List Text × Contents)

namespace FileTree

/-- The entry with the given names.  The root is always a directory. -/
def entry (t : FileTree) (names : List Text) : Contents :=
  if names = [] then .directory else (t.entries.lookup names).getD .missing

/-- The number of bytes in a text. -/
def byteLength (t : Text) : Nat := (String.ofList t).utf8ByteSize

/-- The most bytes that a name may have. -/
def maxNameLength : Nat := 255

/-- The most bytes that a path may have. -/
def maxPathLength : Nat := 4095

/-- Follows names from the directory `here`. -/
def follow (t : FileTree) (here : List Text) : List Text → Contents
  | [] => t.entry here
  | name :: rest =>
    if t.entry here ≠ .directory then .missing
    else if byteLength name > maxNameLength then .tooLong
    else t.follow (Path.stepName here name) rest

/-- What stands under a path.  A path that no file can have is not looked up at all, so
its length does not matter. -/
def read (t : FileTree) (p : Path) : Contents :=
  if p.isImpossible then .missing
  else if byteLength p.render > maxPathLength then .tooLong
  else t.follow (if p.slashes = 0 then t.cwd else []) p.names

/-- The tree with one more entry, and with the directories that lead to it. -/
def add (t : FileTree) (names : List Text) (contents : Contents) : FileTree :=
  let parents := (List.range names.length).map fun n => (names.take n, Contents.directory)
  { t with entries := parents ++ (names, contents) :: t.entries }

/-- The surroundings that a file tree makes. -/
def surroundings (t : FileTree) : Surroundings := ⟨t.cwd, t.read⟩

end FileTree

end DocTree
