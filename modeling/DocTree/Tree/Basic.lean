/-
The tree of items.

A `Tree` is an item with the trees below it, in order.  A node is addressed by its
position, the list of child indices that lead to it from the root.  Each node holds
the key under which its parent finds it:

* a key belongs to at most one of the siblings, the last one that was added
  under it;
* an empty key is never registered;
* merging into a node does not change its key.

The functions here read and change a tree at a position, look up children by key
and list the nodes.

* `Tree.get?_append` — positions compose;
* `Tree.get?_modify_self` — a change at a position shows there.
-/
import DocTree.Item

namespace DocTree

/-- An item with the trees below it, and the key under which its parent finds
it. -/
structure Tree where
  item : Item
  key : Option Text := none
  children : List Tree := []

/-- The child indices that lead from the root to a node. -/
abbrev Position := List Nat

/-- Where items without a scope of their own go; `none` for the root. -/
abbrev Cursor := Option Position

namespace Tree

/-- The tree without items below its root. -/
def empty : Tree := { item := {} }

/-! ### Positions -/

/-- The subtree at a position. -/
def get? : Tree → Position → Option Tree
  | t, [] => some t
  | t, i :: p =>
    match t.children[i]? with
    | some child => child.get? p
    | none => none

/-- Changes the subtree at a position. -/
def modify (f : Tree → Tree) : Tree → Position → Tree
  | t, [] => f t
  | t, i :: p => { t with children := t.children.modify i fun child => child.modify f p }

@[simp] theorem get?_nil (t : Tree) : t.get? [] = some t := by rw [get?]

/-- Two positions one after the other lead where the second leads from the
first. -/
theorem get?_append (t : Tree) (p q : Position) :
    t.get? (p ++ q) = (t.get? p).bind fun node => node.get? q := by
  induction p generalizing t with
  | nil => simp
  | cons i p ih =>
    simp only [List.cons_append, get?]
    cases t.children[i]? with
    | none => rfl
    | some child => exact ih child

/-- A change at a position shows there. -/
theorem get?_modify_self (f : Tree → Tree) (t : Tree) (p : Position) :
    (t.modify f p).get? p = (t.get? p).map f := by
  induction p generalizing t with
  | nil => simp [modify]
  | cons i p ih =>
    simp only [modify, get?, List.getElem?_modify_eq]
    cases t.children[i]? with
    | none => rfl
    | some child => exact ih child

/-- The names of the nodes along a position, from below the root; nameless
nodes are left out. -/
def namesAlong : Tree → Position → List Text
  | _, [] => []
  | t, i :: p =>
    match t.children[i]? with
    | some child =>
      match child.item.name with
      | some (c :: rest) => (c :: rest) :: child.namesAlong p
      | _ => child.namesAlong p
    | none => []

/-- How messages refer to the node at a position. -/
def titleAt (t : Tree) (p : Position) : Text :=
  match p, t.get? p with
  | _ :: _, some node => node.item.title
  | _, _ => "<root>".toList

/-! ### Children -/

/-- The index of the child that is registered under a key. -/
def childIndex? (t : Tree) (key : Text) : Option Nat :=
  t.children.findIdx? fun child => child.key == some key

/-- The child that is registered under a key, with its index. -/
def child? (t : Tree) (key : Text) : Option (Nat × Tree) :=
  (t.childIndex? key).bind fun i => t.children[i]?.map (i, ·)

/-- The index of the scope that is registered under a key.  A function is no
scope. -/
def scopeIndex? (t : Tree) (key : Text) : Option Nat :=
  (t.child? key).bind fun (i, child) => if child.item.isFunction then none else some i

/-- The position of the scope that is registered under a key below the node at
`p`. -/
def scopeBelow? (t : Tree) (p : Position) (key : Text) : Option Position :=
  (t.get? p).bind fun node => (node.scopeIndex? key).map fun i => p ++ [i]

/-- The tree, no longer registered under `key`. -/
def release (key : Option Text) (t : Tree) : Tree :=
  if key.isSome && t.key == key then { t with key := none } else t

/-- The key under which an item is registered: its own, unless that is missing
or empty. -/
def registeredKey (item : Item) : Option Text := item.key.filter fun k => !k.isEmpty

/-- Adds an item as the last child and registers it, which releases its key from
an earlier sibling. -/
def append (t : Tree) (item : Item) : Tree :=
  let key := registeredKey item
  { t with children := t.children.map (release key) ++ [{ item := item, key := key }] }

/-- Merges an item into the root of a tree. -/
def mergeItem (t : Tree) (item : Item) : Tree := { t with item := t.item.merge item }

/-! ### Listing -/

mutual

/-- The positions and nodes strictly below the node at `p`, each before those
below it. -/
def walkFrom (p : Position) : Tree → List (Position × Tree)
  | ⟨_, _, children⟩ => walkList p 0 children

/-- The same for a list of children, the first of which has index `i`. -/
def walkList (p : Position) (i : Nat) : List Tree → List (Position × Tree)
  | [] => []
  | t :: rest => (p ++ [i], t) :: walkFrom (p ++ [i]) t ++ walkList p (i + 1) rest

end

/-- The positions and nodes below the root, each before those below it. -/
def walk (t : Tree) : List (Position × Tree) := walkFrom [] t

/-- The names of the children; nameless ones are left out. -/
def childNames (t : Tree) : List Text :=
  t.children.filterMap fun child => child.item.name.filter fun n => !n.isEmpty

end Tree

end DocTree
