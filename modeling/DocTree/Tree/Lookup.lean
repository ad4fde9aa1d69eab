/-
Scopes by path and by qualified name.

* `Tree.find` — follows a path of names, separated by dots, from a node down;
* `Tree.resolve` — follows the scopes of a qualified name, where an empty segment
  (a leading `::`) starts again at the root and template arguments are left out.

Both fail at the first segment that names no scope.
-/
import DocTree.Error
import DocTree.Scope
import DocTree.Tree.Basic

namespace DocTree.Tree

/-- One step down a path. -/
def findStep (t : Tree) (path : Text) (p : Position) (segment : Text) : Except Error Position :=
  if segment.isEmpty then .error (.emptySegment path)
  else
    match t.scopeBelow? p segment with
    | some q => .ok q
    | none => .error (.unresolved segment path none none)

/-- The position that a path of names leads to from `start`. -/
def find (t : Tree) (start : Position) (path : Text) : Except Error Position :=
  (path.splitOn '.').foldlM (t.findStep path) start

/-- One step down the scopes of the qualified name `name`. -/
def resolveStep (t : Tree) (item : Item) (name : Text) (p : Position) (segment : Text) :
    Except Error Position :=
  if segment.isEmpty then .ok []
  else
    match t.scopeBelow? p (Scope.dropArguments segment) with
    | some q => .ok q
    | none => .error (.unresolved segment name item.declaration item.locations.head?)

/-- The position of the scope that the qualified name of an item puts it in,
seen from `start`. -/
def resolve (t : Tree) (start : Position) (item : Item) : Except Error Position :=
  match item.qualifiedName with
  | some (c :: rest) =>
    (Scope.split (c :: rest)).dropLast.foldlM (t.resolveStep item (c :: rest)) start
  | _ => .ok start

end DocTree.Tree
