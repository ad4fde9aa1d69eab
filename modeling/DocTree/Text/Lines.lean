/-
Lines of a text.

A text is cut into lines at every line break: a line feed, a carriage return
with or without a line feed after it, the vertical tab, the form feed, the
separators U+001C to U+001E, the next-line control U+0085 and the separators
U+2028 and U+2029.  A break ends a line, so a text that ends in one has no empty
line after it.

* `not_isLineBreak_of_mem_lines` — no line holds a line break.
-/
import DocTree.Text.Basic

namespace DocTree

/-- The characters that end a line. -/
def isLineBreak (c : Char) : Bool :=
  let n := c.toNat
  (0x0A ≤ n && n ≤ 0x0D) || (0x1C ≤ n && n ≤ 0x1E) || n == 0x85 || n == 0x2028 || n == 0x2029

namespace Text

/-- The lines of a text, without their breaks. -/
def lines : Text → List Text
  | [] => []
  | '\r' :: '\n' :: rest => [] :: lines rest
  | c :: rest =>
    if isLineBreak c then [] :: lines rest
    else
      match lines rest with
      | [] => [[c]]
      | line :: more => (c :: line) :: more

/-- The text with every carriage return, alone or before a line feed, turned
into a line feed. -/
def unifyBreaks : Text → Text
  | [] => []
  | '\r' :: '\n' :: rest => '\n' :: unifyBreaks rest
  | c :: rest => (if c == '\r' then '\n' else c) :: unifyBreaks rest

theorem not_isLineBreak_of_mem_lines (t : Text) :
    ∀ line ∈ lines t, ∀ c ∈ line, isLineBreak c = false := by
  fun_induction lines t with
  | case1 => simp
  | case2 rest ih => simpa using ih
  | case3 c rest _ hc ih => simpa using ih
  | case4 c rest _ hc hnil => simp_all
  | case5 c rest _ hc line more heq ih =>
    intro l hl d hd
    rcases List.mem_cons.mp hl with rfl | hl
    · rcases List.mem_cons.mp hd with rfl | hd
      · simpa using hc
      · exact ih line (by simp [heq]) d hd
    · exact ih l (by simp [heq, hl]) d hd

end Text

end DocTree
