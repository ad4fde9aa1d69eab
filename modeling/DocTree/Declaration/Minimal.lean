/-
The minimal form of a declaration.

Two declarations of one function may differ in layout and in their default
arguments.  The minimal form leaves both out: every run of blanks becomes one
space, and the default values in the outermost brackets are removed.  A default
value runs from its `=` to the next comma outside inner brackets and angle
groups, or to the closing bracket.  Literals are copied or removed as they stand.

* `Minimal.State` — what the scan has to remember;
* `Minimal.State.next` — one character, with the character after it;
* `minimalForm` — the whole scan.
-/
import DocTree.Declaration.Literal

namespace DocTree

namespace Minimal

/-- The state of the scan. -/
structure State where
  /-- the characters kept so far, the last one first -/
  kept : Text := []
  /-- the character before the next one -/
  before : Option Char := none
  /-- open brackets, negative after a surplus of closing ones -/
  depth : Int := 0
  /-- the literal that the scan is in -/
  literal : Option Literal := none
  /-- while a default value is being removed, the angle groups open in it -/
  removing : Option Nat := none
deriving DecidableEq, Repr

/-- Whether `=` between these two characters starts a default value and is no
part of a comparison or an assignment operator. -/
def startsDefault (before after : Option Char) : Bool :=
  !before.any "=!<>".toList.contains && after != some '='

namespace State

/-- Keeps the character unless a default value is being removed. -/
def keep (s : State) (c : Char) : State :=
  match s.removing with
  | none => { s with kept := c :: s.kept }
  | some _ => s

/-- A character outside literals changes depth and mode; `none` for the `=` that
starts a default value. -/
def outside (s : State) (c : Char) (after : Option Char) : Option State :=
  if (Literal.opened? c).isSome then some { s with literal := Literal.opened? c }
  else if c == '(' || c == '[' || c == '\x7b' then some { s with depth := s.depth + 1 }
  else if c == ')' || c == ']' || c == '\x7d' then
    some { s with
      depth := s.depth - 1
      removing := if s.depth = 1 then none else s.removing }
  -- defaults begin and end in the outermost brackets only
  else if s.depth ≠ 1 then some s
  else
    match s.removing with
    | some angles =>
      if c == '<' then some { s with removing := some (angles + 1) }
      else if c == '>' then some { s with removing := some (angles - 1) }
      else if c == ',' && angles == 0 then some { s with removing := none }
      else some s
    | none => if c == '=' && startsDefault s.before after then none else some s

/-- Reads one character, with the character after it. -/
def next (s : State) (c : Char) (after : Option Char) : State :=
  let s' :=
    match s.literal with
    | some l => { s with literal := l.next c }.keep c
    | none =>
      match s.outside c after with
      | some t => t.keep c
      -- the spaces in front of the `=` go with the default
      | none => { s with kept := s.kept.dropWhile (· == ' '), removing := some 0 }
  { s' with before := some c }

/-- Reads a text. -/
def run (s : State) : Text → State
  | [] => s
  | c :: rest => run (s.next c rest.head?) rest

end State

end Minimal

/-- The minimal form of a declaration. -/
def minimalForm (t : Text) : Text := ((({} : Minimal.State).run t.collapse).kept).reverse

end DocTree
