/-
Markers of documentation comments.

A documentation comment starts with `//!` (line form) or `/*!` (block form) after
any blanks.
-/
import DocTree.Text.Basic

namespace DocTree

namespace Comment

/-- The two forms of a documentation comment. -/
inductive Form where
  | line
  | block
deriving DecidableEq, Repr

/-- The characters that open a comment. -/
def Form.marker : Form → Text
  | .line => "//!".toList
  | .block => "/*!".toList

/-- The form of the comment that starts a text, and the text after its marker. -/
def opened? (t : Text) : Option (Form × Text) :=
  match Form.line.marker.isPrefixOf? t with
  | some after => some (.line, after)
  | none => (Form.block.marker.isPrefixOf? t).map (.block, ·)

/-- Whether a line begins a documentation comment. -/
def startsAt (line : Text) : Bool := (opened? line.trimStart).isSome

end Comment

end DocTree
