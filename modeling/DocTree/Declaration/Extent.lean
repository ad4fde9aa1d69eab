/-
The extent of a declaration.

A declaration runs from the line after its comment to its terminator: a `;`, a
`{` or a lone `:` outside brackets, literals and line comments.  The line with the
terminator is cut before it, and every line loses as much indentation as the
first line has.

* brackets, string literals and open conditionals (`a ? b : c`) carry over from
  line to line; a character literal ends with its line;
* a blank line, the end of the lines or another comment in the place of the first
  line means that there is no declaration.
-/
import DocTree.Comment.Marker
import DocTree.Declaration.Literal

namespace DocTree

namespace Extent

/-- What carries over from one line of a declaration to the next. -/
structure State where
  /-- open round and square brackets -/
  depth : Nat := 0
  /-- the literal that the scan is in -/
  literal : Option Literal := none
  /-- the conditionals whose `:` is still to come -/
  conditionals : Nat := 0
deriving DecidableEq, Repr

/-- What reading a line gives: the text before the terminator, or the state for
the next line. -/
inductive Reading where
  | ended (before : Text)
  | continues (state : State)
deriving DecidableEq, Repr

/-- Puts back a character in front of a finished reading. -/
def Reading.cons (c : Char) : Reading → Reading
  | .ended before => .ended (c :: before)
  | .continues state => .continues state

/-- What a character outside literals and line comments does. -/
inductive Effect where
  | terminate
  | proceed (state : State)

/-- The effect of a character outside literals, with its neighbours in the
line. -/
def State.effect (s : State) (before : Option Char) (c : Char) (after : Option Char) : Effect :=
  if (Literal.opened? c).isSome then .proceed { s with literal := Literal.opened? c }
  else if c == '(' || c == '[' then .proceed { s with depth := s.depth + 1 }
  else if c == ')' || c == ']' then .proceed { s with depth := s.depth - 1 }
  else if s.depth ≠ 0 then .proceed s
  else if c == ';' || c == '\x7b' then .terminate
  else if c == '?' then .proceed { s with conditionals := s.conditionals + 1 }
  -- a colon next to another one belongs to `::`
  else if c == ':' && before != some ':' && after != some ':' then
    if s.conditionals = 0 then .terminate
    else .proceed { s with conditionals := s.conditionals - 1 }
  else .proceed s

/-- The state after the end of a line: a character literal does not go on, and
an escape does not reach the next line. -/
def State.endLine (s : State) : State :=
  { s with literal := s.literal.bind fun l =>
      if l.quote == '\x27' then none else some ⟨l.quote, false⟩ }

/-- Reads the rest of a line, with `before` in front of it. -/
def readFrom (s : State) (before : Option Char) : Text → Reading
  | [] => .continues s.endLine
  | c :: rest =>
    match s.literal with
    | some l => (readFrom { s with literal := l.next c } (some c) rest).cons c
    | none =>
      -- the rest of the line is a comment
      if c == '/' && rest.head? == some '/' then .continues s
      else
        match s.effect before c rest.head? with
        | .terminate => .ended []
        | .proceed s' => (readFrom s' (some c) rest).cons c

/-- Reads a line of a declaration. -/
def readLine (s : State) (line : Text) : Reading := readFrom s none line

/-- The line without its first `n` blanks. -/
def removeIndent : Nat → Text → Text
  | n + 1, c :: rest => if isBlank c then removeIndent n rest else c :: rest
  | _, line => line

/-- The lines of a declaration up to its terminator, without indentation and cut
before the terminator. -/
def gather (indent : Nat) : State → List Text → List Text
  | _, [] => []
  | s, line :: rest =>
    let line := removeIndent indent line
    match readLine s line with
    | .ended before => [before.trimEnd]
    | .continues s' => line :: gather indent s' rest

end Extent

/-- The declaration at the start of some lines and the number of lines it takes;
`none` if there is no declaration. -/
def declarationAt? : List Text → Option (Nat × Text)
  | [] => none
  | first :: rest =>
    if first.trim.isEmpty || Comment.startsAt first then none
    else
      let parts := Extent.gather first.indent.length {} (first :: rest)
      some (parts.length, (Text.join ['\n'] parts).trimEnd)

end DocTree
