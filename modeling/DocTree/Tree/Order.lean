/-
The order of siblings.

Children are sorted by name, by code points; nameless ones go last, and children of
one name keep their order.  Sorting moves nodes, so a cursor that is held across it
has to follow its node (`Tree.followSort`).
-/
import DocTree.Tree.Basic

namespace DocTree.Tree

/-- Whether `a` may stand before `b`. -/
def nameLe (a b : Tree) : Bool :=
  match a.item.name, b.item.name with
  | some x, some y => !y.lex x
  | some _, none => true
  | none, some _ => false
  | none, none => true

/-- The tree with its children sorted by name. -/
def sortChildren (t : Tree) : Tree := { t with children := t.children.mergeSort nameLe }

/-- The indices of the children in the order that sorting gives them. -/
def sortedIndices (t : Tree) : List Nat :=
  (t.children.zipIdx.mergeSort fun a b => nameLe a.1 b.1).map Prod.snd

/-- Where the node at `q` stands after the children of the node at `p` have been
sorted. -/
def followSort (t : Tree) (p q : Position) : Position :=
  match p.isPrefixOf? q, t.get? p with
  | some (i :: rest), some node => p ++ node.sortedIndices.idxOf i :: rest
  | _, _ => q

end DocTree.Tree
