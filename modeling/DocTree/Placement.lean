/-
Placing items in the tree.

An item is placed in three steps: its directives lead from the cursor to a target
scope, the scopes of its qualified name lead on from there to its parent, and there
it merges with the child that is registered under its key or becomes a new child.

* `Tree.settle` — the item as it appears below its parent: without the
  qualifiers that its position implies, and with its minimal form;
* `Tree.arrival` — whether it merges or is added;
* `Tree.place` — the three steps;
* `Tree.placeTrace` — what the log says about them.
-/
import DocTree.Declaration.Minimal
import DocTree.Directive

namespace DocTree

/-- The result of placing an item: the new tree, the position of the item's node
and the cursor for the next item. -/
structure Placement where
  tree : Tree
  position : Position
  cursor : Cursor

/-- What becomes of an item below its parent. -/
inductive Arrival where
  /-- it merges with the child of that index, a declaration of the same form -/
  | merged (index : Nat)
  /-- it merges with the child of that index, whose minimal form was `old` -/
  | redeclared (index : Nat) (old : Option Text)
  /-- it becomes a new child -/
  | added

namespace Tree

/-- Drops one leading `::`. -/
def dropRootMark : Text → Text
  | ':' :: ':' :: rest => rest
  | t => t

/-- The item with the qualifiers removed that name the given scopes.  What is
left of the qualified name is the name. -/
def unqualify (scopes : List Text) (item : Item) : Item :=
  let name := dropRootMark (Scope.removeQualifiers scopes (item.qualifiedName.getD []))
  { item with
    name := if name.isEmpty then none else some name
    display := item.display.map (Scope.removeQualifiers scopes) }

/-- The item as it appears below the node at `parent`. -/
def settle (t : Tree) (parent : Position) (item : Item) : Item :=
  let item :=
    if Text.isNoText item.qualifiedName then item else unqualify (t.namesAlong parent) item
  match item.display with
  | some display => { item with minimal := some (minimalForm display) }
  | none => item

/-- What becomes of an item below the root of `t`.  A function whose key is taken
by another form is added, as an overload. -/
def arrival (t : Tree) (item : Item) : Arrival :=
  match (registeredKey item).bind t.child? with
  | none => .added
  | some (i, child) =>
    -- a missing minimal form equals a missing one
    if child.item.minimal = item.minimal then .merged i
    else if item.isFunction then .added
    else .redeclared i child.item.minimal

/-- Puts an item below the root of `t`, and the index of its node. -/
def accept (t : Tree) (item : Item) : Tree × Nat :=
  match t.arrival item with
  | .merged i | .redeclared i _ => (t.modify (·.mergeItem item) [i], i)
  | .added => (t.append item, t.children.length)

/-- Puts an item below the node at `parent`, and the position of its node. -/
def insert (t : Tree) (parent : Position) (item : Item) : Tree × Position :=
  match t.get? parent with
  | some node => (t.modify (fun n => (n.accept item).1) parent, parent ++ [(node.accept item).2])
  | none => (t, parent)

/-- The target of an item's directives; a failure names the item. -/
def targetOf (t : Tree) (cursor : Cursor) (item : Item) : Except Error Target :=
  (Directive.carryOut t item.directives cursor).mapError (Error.forItem item)

/-- Places an item, starting from the cursor. -/
def place (t : Tree) (cursor : Cursor) (item : Item) : Except Error Placement := do
  let target ← t.targetOf cursor item
  let item := { item with asIs := target.asIs }
  let parent ← t.resolve (target.parent.getD []) item
  -- nothing has changed up to here, so a failure leaves the tree as it was
  let (tree, position) := t.insert parent (t.settle parent item)
  return ⟨tree, position, if target.adopts then some position else cursor⟩

/-! ### Log -/

/-- What the log says about the arrival of a settled item below the node at
`parent`. -/
def arrivalEvent (t : Tree) (parent : Position) (item : Item) : Event :=
  let title := "'".toList ++ item.title ++ "'".toList
  match ((t.get? parent).getD empty).arrival item with
  | .merged _ =>
    ⟨.debug, .placement, "Merging ".toList ++ title ++ " into existing entity".toList⟩
  | .redeclared _ old =>
    ⟨.warning, .placement,
      title ++ " redeclared with a different signature (".toList ++ Text.quoted? old ++
        " vs ".toList ++ Text.quoted? item.minimal ++ "), merging".toList⟩
  | .added =>
    ⟨.debug, .placement,
      "Placing ".toList ++ ((item.kind.map Kind.name).getD "text".toList) ++ ' ' :: title ++
        " under '".toList ++ t.titleAt parent ++ "'".toList⟩

/-- The log of placing an item. -/
def placeTrace (t : Tree) (cursor : Cursor) (item : Item) : List Event :=
  Directive.trace t item.directives cursor ++
    match t.targetOf cursor item with
    | .error _ => []
    | .ok target =>
      let item := { item with asIs := target.asIs }
      match t.resolve (target.parent.getD []) item with
      | .error _ => []
      | .ok parent =>
        let settled := t.settle parent item
        let (tree, position) := t.insert parent settled
        t.arrivalEvent parent settled ::
          if target.adopts then
            [⟨.debug, .placement,
              "'".toList ++ tree.titleAt position ++ "' is the new parent".toList⟩]
          else []

end Tree

end DocTree
