/-
The words of a declaration.

Blanks separate the words of a declaration, except inside angle brackets and
operator tokens: `std::map<int, Foo> Bar::get` has two words, and so has
`bool operator <`.
-/
import DocTree.Declaration.Angle

namespace DocTree

/-- Marks the blanks that separate words, where `depth` is the running depth of
angle brackets.  A depth below zero counts as none. -/
def markGaps : Int → List Marked → List Marked
  | _, [] => []
  | depth, (c, true) :: rest => (c, false) :: markGaps depth rest
  | depth, (c, false) :: rest =>
    if depth ≤ 0 ∧ isBlank c then (c, true) :: markGaps depth rest
    else (c, false) :: markGaps (depth + angleStep c) rest

/-- The words of a declaration. -/
def declaredWords (t : Text) : List Text :=
  let marks := markGaps 0 (markTokens Operator.tokenLength t)
  ((marks.splitOnP Prod.snd).filter fun w => !w.isEmpty).map unmark

theorem map_fst_markGaps (marks : List Marked) :
    ∀ depth, (markGaps depth marks).map Prod.fst = marks.map Prod.fst := by
  induction marks with
  | nil => intro depth; rfl
  | cons m rest ih =>
    obtain ⟨c, mark⟩ := m
    intro depth
    cases mark with
    | true => simp [markGaps, ih]
    | false =>
      rw [markGaps]
      split <;> simp [ih]

end DocTree
