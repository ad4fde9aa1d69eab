/-
Blank characters.

`isBlank c` holds of the characters that separate words and that trimming
removes: the code points with the Unicode property White_Space, together with
the four information separators U+001C to U+001F.

* `isBlank_of_isWhitespace` — the blanks include the white space of the core
  library.
-/
namespace DocTree

/-- The blanks are the space, the controls that break or indent a line, the
information separators and the spaces and breaks of Unicode. -/
def isBlank (c : Char) : Bool :=
  let n := c.toNat
  n == 0x20 || (0x09 ≤ n && n ≤ 0x0D) || (0x1C ≤ n && n ≤ 0x1F) ||
    n == 0x85 || n == 0xA0 || n == 0x1680 || (0x2000 ≤ n && n ≤ 0x200A) ||
    n == 0x2028 || n == 0x2029 || n == 0x202F || n == 0x205F || n == 0x3000

/-- The two blanks that may stand inside a line between tokens. -/
def isSpaceOrTab (c : Char) : Bool := c == ' ' || c == '\t'

theorem isBlank_of_isWhitespace {c : Char} (h : c.isWhitespace = true) : isBlank c = true := by
  have h' : c = ' ' ∨ c = '\t' ∨ c = '\r' ∨ c = '\n' := by
    simpa [Char.isWhitespace, or_assoc] using h
  rcases h' with rfl | rfl | rfl | rfl <;> rfl

theorem isBlank_of_isSpaceOrTab {c : Char} (h : isSpaceOrTab c = true) : isBlank c = true := by
  have h' : c = ' ' ∨ c = '\t' := by simpa [isSpaceOrTab] using h
  rcases h' with rfl | rfl <;> rfl

end DocTree
