/-
Source files.

The lines of a source file are searched for documentation comments.  Each comment,
with the declaration after it, gives an item; the search goes on behind what the item
has taken.  The items of a file are then placed one after the other, with a cursor
that starts at the root.

* `Source.scan` — the items of a file;
* `Source.placeAll` — places them, up to the first that fails.
-/
import DocTree.Comment.Extent
import DocTree.Comment.Plain
import DocTree.Declaration.Display
import DocTree.Declaration.Extent
import DocTree.Declaration.Identifier
import DocTree.Placement

namespace DocTree

/-- The optional text, missing when empty. -/
def Text.nonempty? (t : Text) : Option Text := if t.isEmpty then none else some t

/-- Adds to an item what its declaration says. -/
def Item.declare (item : Item) (declaration : Text) : Item :=
  { item with
    declaration := some declaration
    kind := some (Kind.ofDeclaration declaration)
    qualifiedName := (Identifier.ofDeclaration declaration).nonempty?
    templateParameters := (Templated.ofText declaration).parameters
    display := some (Display.ofDeclaration declaration) }

namespace Source

/-- The item of a comment, before its declaration is read. -/
def itemOf (comment : Comment.Collected) (location : Location) : Item :=
  let plain := Comment.plain comment.raw
  { raw := some comment.raw
    plain := some plain
    summary := some (Comment.summary plain)
    directives := comment.directives
    locations := [location]
    asIs := Directive.requestsAsIs comment.directives }

/-- The item whose comment starts at the line `first`, and the number of lines
that comment and declaration take. -/
def itemAt (location : Location) (first : Text) (rest : List Text) : Item × Nat :=
  let comment := Comment.collect first rest
  let item := itemOf comment location
  if item.asIs then (item, comment.length)
  else
    match declarationAt? ((first :: rest).drop comment.length) with
    | none => (item, comment.length)
    | some (used, declaration) => (item.declare declaration, comment.length + used)

/-- The items in some lines, which start at line `number` of the file, behind the
first `taken` of them. -/
def scanFrom (file : Text) : Nat → Nat → List Text → List Item
  | _, _, [] => []
  | number, taken + 1, _ :: rest => scanFrom file (number + 1) taken rest
  | number, 0, line :: rest =>
    if Comment.startsAt line then
      let (item, used) := itemAt ⟨file, number⟩ line rest
      item :: scanFrom file (number + 1) (used - 1) rest
    else scanFrom file (number + 1) 0 rest

/-- The items of a file, in order. -/
def scan (file : Text) (lines : List Text) : List Item := scanFrom file 1 0 lines

/-- The outcome of placing a file: the tree as far as it got, the log, and the
positions of the items or the failure. -/
structure Run where
  tree : Tree
  trace : List Event
  outcome : Except Error (List Position)

/-- The event that tells of an item found in a file. -/
def collectedEvent (item : Item) : Event :=
  ⟨.debug, .scan,
    "Collected ".toList ++ ((item.kind.map Kind.name).getD "docstring".toList) ++ " '".toList ++
      item.qualifiedName.getD [] ++ "' at ".toList ++
      ((item.locations.head?.map Location.render).getD [])⟩

/-- Places items one after the other, starting from the cursor. -/
def placeFrom (t : Tree) (cursor : Cursor) : List Item → Run
  | [] => ⟨t, [], .ok []⟩
  | item :: rest =>
    let trace := collectedEvent item :: t.placeTrace cursor item
    match t.place cursor item with
    -- the items before this one stay in the tree
    | .error e => ⟨t, trace, .error e⟩
    | .ok placed =>
      let run := placeFrom placed.tree placed.cursor rest
      ⟨run.tree, trace ++ run.trace, run.outcome.map (placed.position :: ·)⟩

/-- Places the items of a file. -/
def placeAll (t : Tree) (file : Text) (lines : List Text) : Run :=
  placeFrom t none (scan file lines)

end Source

end DocTree
