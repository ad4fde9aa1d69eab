/-
The directive token of a comment.

Directives are written directly after the marker: `//![Foo]> Text`.  The token runs
from the marker to the first blank or `*`, so `//! [Foo] text` has none.  Of a token
only its first bracketed group and its first run of directive signs count.

* `Comment.splitToken` — the directives of a line and the line without the
  token.
-/
import DocTree.Comment.Marker

namespace DocTree.Comment

/-- The text up to and with the first marker, and the text after it. -/
def splitAtMarker : Text → Option (Text × Text)
  | [] => none
  | c :: rest =>
    match opened? (c :: rest) with
    | some (form, after) => some (form.marker, after)
    | none => (splitAtMarker rest).map fun (before, after) => (c :: before, after)

/-- The signs that direct where a comment goes. -/
def isSign (c : Char) : Bool := c == '<' || c == '>' || c == '^' || c == '~'

/-- The first bracketed group of a token, and the token without it.  A group
that is not closed runs to the end. -/
def splitGroup (token : Text) : Text × Text :=
  let before := token.takeWhile (· != '[')
  let fromOpen := token.dropWhile (· != '[')
  let inside := fromOpen.takeWhile (· != ']')
  match fromOpen.dropWhile (· != ']') with
  | [] => (inside, before)
  | close :: after => (inside ++ [close], before ++ after)

/-- The directives that a token stands for. -/
def directivesOf (token : Text) : Text :=
  let (group, others) := splitGroup token
  group ++ (others.dropWhile fun c => !isSign c).takeWhile isSign

/-- The directives of the first line of a comment, and the line without its
directive token. -/
def splitToken (line : Text) : Text × Text :=
  match splitAtMarker line with
  | none => ([], line)
  | some (opening, after) =>
    let inToken := fun c => !isBlank c && c != '*'
    (directivesOf (after.takeWhile inToken), opening ++ after.dropWhile inToken)

end DocTree.Comment
