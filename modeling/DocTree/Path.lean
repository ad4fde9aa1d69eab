/-
Paths of files.

A path is a list of names below a root or below the working directory.  Reading it
drops empty names and `.`, but keeps `..`, since what it stands for depends on the
directories.

* `Path.render` — the path as text;
* `Path.suffix` — the extension of the last name, with its dot;
* `Path.absolute` — the path from the root, with every `..` taken away;
* `Path.display` — how a file is shown: relative to a directory that contains
  it, or as given.
-/
import DocTree.Text.Basic

namespace DocTree

/-- A path: the slashes in front (none, one, or exactly two, which are kept
apart) and the names. -/
structure Path where
  slashes : Nat := 0
  names : List Text := []
deriving DecidableEq, Repr

namespace Path

/-- Reads a path. -/
def ofText (t : Text) : Path where
  slashes :=
    match (t.takeWhile (· == '/')).length with
    | 0 => 0
    | 2 => 2
    | _ => 1
  names := (t.splitOn '/').filter fun n => !n.isEmpty && n != ['.']

/-- The path as text; the empty path is the current directory. -/
def render (p : Path) : Text :=
  if p.slashes = 0 ∧ p.names = [] then ['.']
  else List.replicate p.slashes '/' ++ Text.join ['/'] p.names

/-- The path `q` seen from the directory `p`. -/
def append (p q : Path) : Path :=
  if q.slashes = 0 then { p with names := p.names ++ q.names } else q

/-- The last name, empty for a root or the current directory. -/
def name (p : Path) : Text := p.names.getLast?.getD []

/-- The last name from its last dot on; empty if the dot is at either end of the
name. -/
def suffix (p : Path) : Text :=
  let tail := p.name.reverse.takeWhile (· != '.')
  let front := p.name.reverse.dropWhile (· != '.')
  if tail.isEmpty || front.length ≤ 1 then [] else '.' :: tail.reverse

/-- Goes down by one name, or up by `..`; the root is above itself. -/
def stepName (here : List Text) (name : Text) : List Text :=
  if name = "..".toList then here.dropLast else here ++ [name]

/-- The names from the root to a path, seen from the working directory `cwd`. -/
def absolute (cwd : List Text) (p : Path) : List Text :=
  p.names.foldl stepName (if p.slashes = 0 then cwd else [])

/-- Whether no file can have this path: names hold no null character. -/
def isImpossible (p : Path) : Bool := p.names.any (·.contains '\x00')

/-- How a file is shown: relative to `directory` if both can exist and it lies inside,
else as given. -/
def display (cwd : List Text) (directory : Option Text) (p : Path) : Text :=
  match directory with
  | none => p.render
  | some d =>
    if p.isImpossible || (ofText d).isImpossible then p.render
    else match (absolute cwd (ofText d)).isPrefixOf? (absolute cwd p) with
    | some inside => render { names := inside }
    | none => p.render

end Path

end DocTree
