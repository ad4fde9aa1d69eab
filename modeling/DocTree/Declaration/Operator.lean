/-
Operator tokens.

The keyword `operator` and the symbol after it form one token: `operator<<`,
`operator()` or `operator []`.  Its brackets are neither template arguments nor a
parameter list, so every scan of a declaration passes over the token as a whole.
Before a type (`operator bool`) only the keyword is the token.

* `Operator.tokenLength` — the length of the token at the start of a text;
* `Operator.find?` — the first place where the keyword is a whole word.
-/
import DocTree.Text.Mark
import DocTree.Text.WordChar

namespace DocTree

/-- The word characters at the start of a text. -/
def Text.leadingWord (t : Text) : Text := t.takeWhile isWordChar

/-- The text after its leading word. -/
def Text.afterWord (t : Text) : Text := t.dropWhile isWordChar

theorem Text.leadingWord_append_afterWord (t : Text) : leadingWord t ++ afterWord t = t :=
  List.takeWhile_append_dropWhile

namespace Operator

def keyword : Text := "operator".toList

/-- The characters of which symbols are made. -/
def symbols : Text := "+-*/%^&|~!=<>,".toList

/-- Whether the keyword stands as a whole word at the start of `t`, with
`before` in front of it. -/
def standsAt (before : Option Char) (t : Text) : Bool :=
  match keyword.isPrefixOf? t with
  | some after => !before.any isWordChar && !after.head?.any isWordChar
  | none => false

/-- The length of the symbol after the keyword, with the spaces and tabs in
front of it; `0` if there is no symbol. -/
def symbolLength (t : Text) : Nat :=
  let gap := (t.takeWhile isSpaceOrTab).length
  let rest := t.dropWhile isSpaceOrTab
  if "()".toList.isPrefixOf rest || "[]".toList.isPrefixOf rest then gap + 2
  else
    match (rest.takeWhile symbols.contains).length with
    | 0 => 0
    | n + 1 => gap + (n + 1)

/-- The length of the operator token at the start of a text. -/
def tokenLength : TokenLength := fun before t =>
  if standsAt before t then keyword.length + symbolLength (t.drop keyword.length) else 0

/-- The index just past the operator token that starts at `index`, or `index`
itself if none does. -/
def tokenEnd (t : Text) (index : Nat) : Nat :=
  let before := if index = 0 then none else t[index - 1]?
  index + tokenLength before (t.drop index)

/-- The first index in `t` at which the keyword is a whole word, with `before` in
front of `t`. -/
def findFrom (before : Option Char) : Text → Option Nat
  | [] => none
  | c :: rest =>
    if standsAt before (c :: rest) then some 0 else (findFrom (some c) rest).map (· + 1)

/-- The first index at which the keyword is a whole word. -/
def find? (t : Text) : Option Nat := findFrom none t

theorem standsAt_nil (before : Option Char) : standsAt before [] = false := rfl

theorem tokenLength_eq_zero_iff {before : Option Char} {t : Text} :
    tokenLength before t = 0 ↔ standsAt before t = false := by
  have hlen : keyword.length = 8 := rfl
  unfold tokenLength
  cases standsAt before t with
  | false => simp
  | true =>
    simp only [if_true, Bool.true_eq_false, iff_false]
    omega

end Operator

end DocTree
