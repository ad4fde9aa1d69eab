/-
Template preambles.

A declaration may begin with `template<…>`, several times for a member template of
a class template.  `Templated.ofText` splits the parameter lists off:

* each list is read to its closing bracket, and the lists are kept joined by
  a space;
* `template` without a list is an explicit instantiation and is dropped;
* a list that is not closed ends the preamble, and the text from its `template` on
  belongs to the body.
-/
import DocTree.Declaration.Angle

namespace DocTree

/-- A declaration with its template parameters split off. -/
structure Templated where
  parameters : Option Text
  body : Text
deriving DecidableEq, Repr

namespace Templated

/-- The parameter lists at the start of `t`, which has no leading blanks, and
the text after them. -/
def preamble (t : Text) : List Text × Text :=
  if t.leadingWord = "template".toList then
    match h : t.afterWord.trimStart with
    | '<' :: rest =>
      match hclose : closeAngle 0 0 rest with
      | some (group, after) =>
        have : after.trimStart.length < t.length := by
          have h₁ := length_of_closeAngle hclose
          have h₂ := Text.length_trimStart_le after
          have h₃ := congrArg List.length (Text.leadingWord_append_afterWord t)
          have h₄ := Text.length_trimStart_le t.afterWord
          rw [h, List.length_cons] at h₄
          rw [List.length_append] at h₃
          omega
        let (lists, body) := preamble after.trimStart
        (('<' :: group) :: lists, body)
      -- not closed: the keyword stays with the body
      | none => ([], t)
    | instantiated => ([], instantiated)
  else ([], t)
termination_by t.length

/-- Splits the template preamble off a declaration.  A declaration without one
is the body as it stands, leading blanks included. -/
def ofText (t : Text) : Templated :=
  match preamble t.trimStart with
  | ([], body) => ⟨none, if body = t.trimStart then t else body⟩
  | (lists, body) => ⟨some (Text.join [' '] lists), body⟩

end Templated

end DocTree
