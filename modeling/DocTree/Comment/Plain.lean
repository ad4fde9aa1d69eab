/-
The plain text of a comment.

Every line of a comment loses its marker (`//!`, `//`, `/*!`, `/*` or a leading `*`)
with one space or tab after it, a closing `*/` and the blanks at its end.  The
plain text is what remains, without blank lines at the ends; its first line is the
summary.
-/
import DocTree.Comment.Marker

namespace DocTree.Comment

/-- The text after a comment marker at its start; the text itself if there is
none.  The `*` of a closing `*/` is no marker. -/
def dropMarker : Text → Option Text
  | '/' :: '/' :: '!' :: rest => some rest
  | '/' :: '/' :: rest => some rest
  | '/' :: '*' :: '!' :: rest => some rest
  | '/' :: '*' :: rest => some rest
  | '*' :: '/' :: _ => none
  | '*' :: rest => some rest
  | _ => none

/-- The text without one leading space or tab. -/
def dropSpace : Text → Text
  | c :: rest => if isSpaceOrTab c then rest else c :: rest
  | [] => []

/-- The text without its trailing blanks and a closing `*/` before them. -/
def dropClose (t : Text) : Text :=
  let t := t.trimEnd
  match "/*".toList.isPrefixOf? t.reverse with
  | some before => Text.trimEnd before.reverse
  | none => t

/-- One line of a comment without its markers. -/
def plainLine (line : Text) : Text :=
  dropClose (match dropMarker line.trimStart with
    | some rest => dropSpace rest
    | none => line)

/-- The plain text of a comment. -/
def plain (raw : Text) : Text :=
  (Text.join ['\n'] ((raw.splitOn '\n').map plainLine)).trim

/-- The first line of a plain text. -/
def summary (t : Text) : Text := t.takeWhile (· != '\n')

end DocTree.Comment
