/-
Pictographs written by name.

In the texts of an outline a name between two colons, such as `:heart:`, stands for a
pictograph.  Capital letters count as small ones.  After the name `-emoji` or `-text`
asks for the coloured or the plain form of the sign.  A name that is not known stays as
it is, with both its colons.

* `Text.pictured_of_forall_ne` — a text without colons stays as it is.
-/
import DocTree.Report.PictographNames
import DocTree.Text.Lowercase

namespace DocTree

/-- A name between colons: what is written after the first colon, the name, the
character that asks for a form, and the text after the second colon. -/
structure PictographCode where
  written : Text
  name : Text
  form : Text
  after : Text

namespace PictographCode

/-- The forms that can be asked for. -/
def forms : List (Text × Text) :=
  [("-emoji:".toList, ['\ufe0f']), ("-text:".toList, ['\ufe0e'])]

/-- The form that is asked for at the start of a text. -/
def form? (t : Text) : Option (Text × Text) := forms.find? fun (ending, _) => ending.isPrefixOf t

/-- The code whose first colon stands in front of a text.  It has no blanks. -/
def ofText? : Text → Option PictographCode
  | [] => none
  | c :: rest =>
    if c == ':' then some ⟨[c], [], [], rest⟩
    else
      match form? (c :: rest) with
      | some (ending, form) => some ⟨ending, [], form, (c :: rest).drop ending.length⟩
      | none =>
        if isBlank c then none
        else (ofText? rest).map fun code =>
          { code with written := c :: code.written, name := c :: code.name }

/-- What is shown for a code. -/
def shown (code : PictographCode) : Text :=
  match pictographNames.lookup code.name.lower with
  | some sign => sign ++ code.form
  | none => ':' :: code.written

theorem length_after_le {t : Text} {code : PictographCode} (h : ofText? t = some code) :
    code.after.length ≤ t.length := by
  induction t generalizing code with
  | nil => simp [ofText?] at h
  | cons c rest ih =>
    rw [ofText?] at h
    split at h
    · simp only [Option.some.injEq] at h
      simp [← h]
    · split at h
      · simp only [Option.some.injEq] at h
        simp [← h]
      · split at h
        · simp at h
        · obtain ⟨code', h', rfl⟩ := Option.map_eq_some_iff.mp h
          have := ih h'
          simp only [List.length_cons]
          omega

end PictographCode

namespace Text

/-- The text with pictographs in the place of their names. -/
def pictured (t : Text) : Text :=
  match t with
  | [] => []
  | c :: rest =>
    if c == ':' then
      match _h : PictographCode.ofText? rest with
      | some code => code.shown ++ pictured code.after
      | none => c :: pictured rest
    else c :: pictured rest
termination_by t.length
decreasing_by
  · have := PictographCode.length_after_le _h
    simp only [List.length_cons]
    omega
  all_goals simp

theorem pictured_of_forall_ne {t : Text} (h : ∀ c ∈ t, c ≠ ':') : pictured t = t := by
  induction t with
  | nil => rw [pictured]
  | cons c rest ih =>
    have hc : (c == ':') = false := by simpa using h c (by simp)
    rw [pictured, hc]
    simp [ih fun d hd => h d (by simp [hd])]

end Text

end DocTree
