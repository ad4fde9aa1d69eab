/-
Quoted texts.

A quoted text is written between single quotes, or between double quotes when
it holds a single quote and no double one.  The quote in use and the backslash
are escaped, and a character that is not printable is written by its code.
-/
import DocTree.Text.Basic
import DocTree.Text.Printable

namespace DocTree

/-- The lower-case hexadecimal numeral of `n` with at least `width` digits. -/
def hexDigits (width n : Nat) : Text :=
  let digits := Nat.toDigits 16 n
  List.replicate (width - digits.length) '0' ++ digits

namespace Text

/-- One character inside a text quoted with `quote`. -/
def quotedChar (quote c : Char) : Text :=
  if c == quote || c == '\\' then ['\\', c]
  else if c == '\n' then ['\\', 'n']
  else if c == '\r' then ['\\', 'r']
  else if c == '\t' then ['\\', 't']
  else if isPrintable c then [c]
  else if c.toNat < 0x100 then '\\' :: 'x' :: hexDigits 2 c.toNat
  else if c.toNat < 0x10000 then '\\' :: 'u' :: hexDigits 4 c.toNat
  else '\\' :: 'U' :: hexDigits 8 c.toNat

/-- The text in quotes. -/
def quoted (t : Text) : Text :=
  let quote := if t.contains '\'' && !t.contains '"' then '"' else '\''
  quote :: t.flatMap (quotedChar quote) ++ [quote]

/-- An optional text in quotes, or the word for a missing one. -/
def quoted? : Option Text → Text
  | none => "None".toList
  | some t => t.quoted

end Text

end DocTree
