/-
Directives.

The directives of a comment say where its item goes, relative to the cursor:

* `~` — the comment stands on its own, and the cursor is left alone;
* `>` — the item becomes the cursor for those that follow;
* `<` — one scope up;
* `^` — up to the root;
* `[a.b]` — down to the scope `b` of the scope `a`.

Other characters have no meaning.  Directives are carried out from left to right,
and nothing after a `~` counts.

* `Directive.read` — the directives that a text spells;
* `Directive.carryOut` — the target that they lead to.
-/
import DocTree.Event
import DocTree.Tree.Lookup

namespace DocTree

/-- A directive.  A bracket that is not closed is one too, so that the directives
before it are carried out first. -/
inductive Directive where
  | asIs
  | adopt
  | up
  | top
  | descend (path : Text)
  | unclosed
deriving DecidableEq, Repr

/-- Where directives lead: the scope, whether the comment stands on its own and
whether its item becomes the cursor. -/
structure Target where
  parent : Cursor
  asIs : Bool := false
  adopts : Bool := false
deriving DecidableEq, Repr

namespace Directive

/-- Reads directives; `path` is the text since an open bracket. -/
def readFrom : Option Text → Text → List Directive
  | none, [] => []
  | some _, [] => [.unclosed]
  | some path, c :: rest =>
    if c == ']' then .descend path :: readFrom none rest
    else readFrom (some (path ++ [c])) rest
  | none, c :: rest =>
    if c == '~' then [.asIs]
    else if c == '>' then .adopt :: readFrom none rest
    else if c == '<' then .up :: readFrom none rest
    else if c == '^' then .top :: readFrom none rest
    else if c == '[' then readFrom (some []) rest
    else readFrom none rest

/-- The directives that a text spells. -/
def read (t : Text) : List Directive := readFrom none t

/-- Whether a text asks for its comment to stand on its own.  Only what comes
after the last bracket counts, as paths may hold any character. -/
def requestsAsIs (t : Text) : Bool := (t.reverse.takeWhile (· != ']')).contains '~'

/-- One scope up from a cursor.  The root is above the top-level nodes and above
itself. -/
def enclosing : Cursor → Cursor
  | none => none
  | some p =>
    match p.dropLast with
    | [] => none
    | q => some q

/-- Carries out one directive of `source`, which started at the cursor `start`. -/
def step (t : Tree) (source : Text) (start : Cursor) (target : Target) :
    Directive → Except Error Target
  | .asIs => .ok { parent := start, asIs := true, adopts := false }
  | .adopt => .ok { target with adopts := true }
  | .up => .ok { target with parent := enclosing target.parent }
  | .top => .ok { target with parent := none }
  | .descend path =>
    match t.find (target.parent.getD []) path with
    | .ok p => .ok { target with parent := some p }
    | .error e => .error e
  | .unclosed => .error (.unclosed source)

/-- The target to which the directives of a text lead from a cursor. -/
def carryOut (t : Tree) (source : Text) (cursor : Cursor) : Except Error Target :=
  (read source).foldlM (step t source cursor) { parent := cursor }

/-! ### Log -/

/-- What the log says before a directive is carried out. -/
def announcement : Directive → Option Text
  | .asIs => some "~ Include docstring as is".toList
  | .adopt => some "> Documented entity becomes the new parent".toList
  | .up => some "< Parent is the parent's parent".toList
  | .top => some "^ Reset parent to root".toList
  | .descend path =>
    some ('[' :: path ++ "] Parent is '".toList ++ path ++ "'".toList)
  | .unclosed => none

/-- The log of some directives, which ends where one of them fails. -/
def traceFrom (t : Tree) (source : Text) (start : Cursor) : Target → List Directive → List Event
  | _, [] => []
  | target, d :: rest =>
    d.announcement.toList.map (⟨.debug, .directives, ·⟩) ++
      match step t source start target d with
      | .ok next => traceFrom t source start next rest
      | .error _ => []

/-- The log of carrying out the directives of a text. -/
def trace (t : Tree) (source : Text) (cursor : Cursor) : List Event :=
  traceFrom t source cursor { parent := cursor } (read source)

end Directive

end DocTree
