/-
Characters of a settings document.

* `Yaml.isAllowed` — the characters that may stand in a document at all;
* `Yaml.isBreak` — those that end a line;
* `Yaml.atGap`, `Yaml.atMarker` — whether a gap, or a line that marks the start or
  the end of a document, comes next.

Spaces, tabs and line breaks separate tokens, but only spaces may stand between two
of them: a tab outside quotes and comments makes a document malformed.
-/
import DocTree.Text.Basic

namespace DocTree.Yaml

/-- Whether a character may stand in a document. -/
def isAllowed (c : Char) : Bool :=
  let n := c.toNat
  n == 0x09 || n == 0x0A || n == 0x0D || (0x20 ≤ n && n ≤ 0x7E) || n == 0x85 ||
    (0xA0 ≤ n && n ≤ 0xFFFD) || 0x10000 ≤ n

/-- Whether a character ends a line. -/
def isBreak (c : Char) : Bool :=
  c == '\n' || c == '\u0085' || c == '\u2028' || c == '\u2029'

/-- The character that a line break is in a scalar: the two separators U+2028 and
U+2029 stay, the others are line feeds. -/
def breakChar (c : Char) : Char := if c == '\u0085' then '\n' else c

/-- Whether a character separates tokens. -/
def isGap (c : Char) : Bool := c == ' ' || c == '\t' || isBreak c

/-- Whether a text ends or goes on with a gap. -/
def atGap : Text → Bool
  | [] => true
  | c :: _ => isGap c

/-- Whether a line that starts here marks the start or the end of a document. -/
def atMarker : Text → Bool
  | '-' :: '-' :: '-' :: rest => atGap rest
  | '.' :: '.' :: '.' :: rest => atGap rest
  | _ => false

/-- The characters that have a meaning of their own at the start of a token. -/
def indicators : Text := "-?:,[]\x7b\x7d#&*!|>\x27\"%@\x60".toList

/-- The characters that end a plain scalar inside brackets. -/
def flowIndicators : Text := ",[]\x7b\x7d".toList

end DocTree.Yaml
