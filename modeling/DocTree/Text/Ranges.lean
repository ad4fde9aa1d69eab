/-
Sets of code points given by ranges.

`Ranges` lists the inclusive ranges of a set of code points in increasing
order.  Membership is looked up from the front and stops at the first range
that lies beyond the code point.
-/
namespace DocTree

/-- The inclusive ranges of a set of code points, in increasing order. -/
abbrev Ranges := List (Nat × Nat)

/-- Whether a code point lies in one of the ranges. -/
def Ranges.has : Ranges → Nat → Bool
  | [], _ => false
  | (lo, hi) :: rest, n => if n < lo then false else n ≤ hi || Ranges.has rest n

end DocTree
