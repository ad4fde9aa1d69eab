/-
String and character literals.

A literal runs from its quote to the next unescaped occurrence of the same quote;
a backslash escapes the character after it.
-/
import DocTree.Text.Basic

namespace DocTree

/-- An open literal: its quote, and whether the last character was an escaping
backslash. -/
structure Literal where
  quote : Char
  escaped : Bool
deriving DecidableEq, Repr

namespace Literal

/-- The literal that a character opens, if it is a quote. -/
def opened? (c : Char) : Option Literal :=
  if c == '"' || c == '\x27' then some ⟨c, false⟩ else none

/-- Reads one more character of a literal; `none` when it closes the literal. -/
def next (l : Literal) (c : Char) : Option Literal :=
  if l.escaped then some ⟨l.quote, false⟩
  else if c == '\\' then some ⟨l.quote, true⟩
  else if c == l.quote then none
  else some l

end Literal

end DocTree
