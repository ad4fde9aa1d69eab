/-
Marking the tokens of a text.

Some spans of a text are read as a whole: an operator with its symbol, or a
qualifier to be removed.  Such a kind of token is given by a function that
measures the token at the start of a text, knowing the character in front, and
answers `0` where none starts.  `markTokens` walks through the text from left to
right, takes every token where the walk meets one and marks its characters.

* `map_fst_markTokens` — marking keeps the text;
* `markTokens_of_no_token` — without tokens nothing is marked.
-/
import DocTree.Text.Basic

namespace DocTree

/-- A character together with whether it lies inside a token. -/
abbrev Marked := Char × Bool

/-- The length of the token at the start of a text, given the character in
front of the text; `0` if no token starts there. -/
abbrev TokenLength := Option Char → Text → Nat

/-- Marks a text, the first `inside` characters of which still belong to a
token. -/
def markTokensFrom (len : TokenLength) : Nat → Option Char → Text → List Marked
  | _, _, [] => []
  | inside + 1, _, c :: rest => (c, true) :: markTokensFrom len inside (some c) rest
  | 0, before, c :: rest =>
    match len before (c :: rest) with
    | 0 => (c, false) :: markTokensFrom len 0 (some c) rest
    | n + 1 => (c, true) :: markTokensFrom len n (some c) rest

/-- The characters of a text with the tokens marked, found from left to right
without overlap. -/
def markTokens (len : TokenLength) (t : Text) : List Marked := markTokensFrom len 0 none t

/-- The characters of a marked text. -/
def unmark (marks : List Marked) : Text := marks.map Prod.fst

/-- The text without its tokens. -/
def removeTokens (len : TokenLength) (t : Text) : Text :=
  unmark ((markTokens len t).filter fun m => !m.2)

theorem map_fst_markTokensFrom (len : TokenLength) (t : Text) :
    ∀ (inside : Nat) (before : Option Char),
      (markTokensFrom len inside before t).map Prod.fst = t := by
  induction t with
  | nil => intro inside before; cases inside <;> rfl
  | cons c rest ih =>
    intro inside before
    cases inside with
    | succ n => simp [markTokensFrom, ih]
    | zero =>
      rw [markTokensFrom]
      split <;> simp [ih]

theorem map_fst_markTokens (len : TokenLength) (t : Text) :
    (markTokens len t).map Prod.fst = t :=
  map_fst_markTokensFrom len t 0 none

theorem markTokens_of_no_token {len : TokenLength} (h : ∀ before t, len before t = 0) (t : Text) :
    markTokens len t = t.map (·, false) := by
  suffices ∀ before, markTokensFrom len 0 before t = t.map (·, false) from this none
  induction t with
  | nil => intro before; rfl
  | cons c rest ih => intro before; simp [markTokensFrom, h, ih]

end DocTree
