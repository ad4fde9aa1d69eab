/-
Documented items.

An `Item` is what a documentation comment and the declaration after it say: texts,
kind and the places in the sources.  Items that declare the same thing merge:

* of each text the longer one stays, the earlier one on a tie;
* kind and as-is flag are those of the later item;
* the places are collected without repetition.

`Item.merge_self` — merging an item with itself changes nothing.
-/
import DocTree.Declaration.Kind

namespace DocTree

/-- A line of a source file, counted from one. -/
structure Location where
  file : Text
  line : Int
deriving DecidableEq, Repr

/-- The location as `file:line`. -/
def Location.render (l : Location) : Text := l.file ++ ':' :: Text.ofInt l.line

/-- A documentation comment with the declaration that it documents. -/
structure Item where
  /-- the identifier inside the enclosing scope -/
  name : Option Text := none
  /-- the identifier as written in the declaration -/
  qualifiedName : Option Text := none
  kind : Option Kind := none
  /-- the comment as written -/
  raw : Option Text := none
  /-- the plain text of the comment -/
  plain : Option Text := none
  summary : Option Text := none
  directives : Text := []
  declaration : Option Text := none
  display : Option Text := none
  minimal : Option Text := none
  templateParameters : Option Text := none
  locations : List Location := []
  /-- whether the comment stands on its own, without a declaration -/
  asIs : Bool := false
deriving DecidableEq, Repr

namespace Item

def isFunction (i : Item) : Bool := i.kind == some .function

/-- What identifies an item among its siblings: the minimal form of a function,
so that overloads are told apart, and the name of anything else. -/
def key (i : Item) : Option Text := if i.isFunction then i.minimal else i.name

/-- The first of two optional texts that is not empty, or else `fallback`. -/
def firstText (a b : Option Text) (fallback : Text) : Text :=
  match a, b with
  | some (c :: t), _ => c :: t
  | _, some (c :: t) => c :: t
  | _, _ => fallback

/-- How messages refer to an item. -/
def title (i : Item) : Text := firstText i.qualifiedName i.name "<unnamed>".toList

/-! ### Merging -/

/-- The longer of two texts, the first one on a tie. -/
def longer (old new : Text) : Text := if old.length < new.length then new else old

/-- The longer of two optional texts; a missing one gives way. -/
def longer? : Option Text → Option Text → Option Text
  | none, new => new
  | old, none => old
  | some old, some new => some (longer old new)

/-- Adds the locations that are not yet among `old`, one after the other. -/
def addLocations (old new : List Location) : List Location :=
  new.foldl (fun known l => if known.contains l then known else known ++ [l]) old

/-- Merges a later item into an earlier one. -/
def merge (old new : Item) : Item where
  name := longer? old.name new.name
  qualifiedName := longer? old.qualifiedName new.qualifiedName
  kind := new.kind
  raw := longer? old.raw new.raw
  plain := longer? old.plain new.plain
  summary := longer? old.summary new.summary
  directives := longer old.directives new.directives
  declaration := longer? old.declaration new.declaration
  display := longer? old.display new.display
  minimal := longer? old.minimal new.minimal
  templateParameters := longer? old.templateParameters new.templateParameters
  locations := addLocations old.locations new.locations
  asIs := new.asIs

/-! ### Laws of merging -/

theorem longer_self (t : Text) : longer t t = t := by
  rw [longer, if_neg (Nat.lt_irrefl _)]

theorem longer?_self (t : Option Text) : longer? t t = t := by
  cases t with
  | none => rfl
  | some t => rw [longer?, longer_self]

/-- Locations that are all known add nothing. -/
theorem addLocations_of_subset {old new : List Location} (h : ∀ l ∈ new, l ∈ old) :
    addLocations old new = old := by
  unfold addLocations
  induction new with
  | nil => rfl
  | cons l rest ih =>
    have hl : old.contains l = true := List.contains_iff_mem.mpr (h l (by simp))
    rw [List.foldl_cons, if_pos hl]
    exact ih fun x hx => h x (by simp [hx])

/-- Merging an item with itself changes nothing. -/
theorem merge_self (i : Item) : i.merge i = i := by
  simp only [merge, longer?_self, longer_self, addLocations_of_subset fun _ h => h]

end Item

end DocTree
