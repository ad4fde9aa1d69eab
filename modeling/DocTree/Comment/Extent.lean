/-
The extent of a comment.

A comment in block form runs through the line that holds `*/`, or to the end of
the lines if none does.  A comment in line form runs as long as the lines are line
comments.

* `Comment.Collected` — a comment taken from the start of some lines;
* `Comment.collect` — reads it, with the directive token split off its first
  line.
-/
import DocTree.Comment.Token

namespace DocTree.Comment

/-- A comment taken from the start of some lines. -/
structure Collected where
  /-- the number of lines it takes -/
  length : Nat
  /-- its lines as written, without the directive token -/
  raw : Text
  directives : Text
  /-- its first line without the directive token -/
  firstLine : Text
deriving DecidableEq, Repr

/-- Whether a line is a line comment. -/
def isLineComment (line : Text) : Bool := "//".toList.isPrefixOf line.trimStart

/-- The lines through the first one that closes a block. -/
def throughClose : List Text → List Text
  | [] => []
  | line :: rest => if line.has "*/".toList then [line] else line :: throughClose rest

/-- The lines of the comment that starts at `first`. -/
def linesFrom (first : Text) (rest : List Text) : List Text :=
  match opened? first.trimStart with
  | some (.block, _) => throughClose (first :: rest)
  | _ => (first :: rest).takeWhile isLineComment

/-- Collects the comment that starts at the line `first`. -/
def collect (first : Text) (rest : List Text) : Collected :=
  let (directives, firstLine) := splitToken first
  let taken := linesFrom firstLine rest
  ⟨taken.length, Text.dropEndWhile (· == '\n') (Text.join ['\n'] taken), directives, firstLine⟩

end DocTree.Comment
