/-
The display form of a declaration.

For display a declaration loses its template preamble, its leading declaration
keywords and its trailing blanks.
-/
import DocTree.Declaration.Template

namespace DocTree.Display

/-- The keywords that the display form leaves out. -/
def keywords : List Text :=
  ["enum".toList, "class".toList, "using".toList, "namespace".toList, "struct".toList,
    "union".toList, "typedef".toList]

/-- Drops the declaration keywords that lead a text, each with the blanks around
it.  A keyword at the very end of the text stays. -/
def dropKeywords (t : Text) : Text :=
  let body := t.trimStart
  if h : keywords.contains body.leadingWord ∧ body.afterWord.head?.any isBlank then
    have : body.afterWord.trimStart.length < t.length := by
      have hlead : body.leadingWord ≠ [] := by
        intro hnil
        have hnot : keywords.contains ([] : Text) = false := by decide
        rw [hnil, hnot] at h
        exact absurd h.1 (by decide)
      have h₁ := Text.length_trimStart_le t
      have h₂ := congrArg List.length (Text.leadingWord_append_afterWord body)
      have h₃ := Text.length_trimStart_le body.afterWord
      have h₄ := List.length_pos_iff.mpr hlead
      have h₅ : body.length ≤ t.length := h₁
      rw [List.length_append] at h₂
      omega
    dropKeywords body.afterWord.trimStart
  else t
termination_by t.length

/-- The display form of a declaration. -/
def ofDeclaration (t : Text) : Text := (dropKeywords (Templated.ofText t).body).trimEnd

end DocTree.Display
