/-
Angle brackets.

Template arguments stand between `<` and `>`.  There is no telling a bracket from
a comparison without a full parse, so each scan counts the brackets in the way
that suits it:

* `splitAtTop` — cuts at the first occurrence of a character outside angle
  groups and operator tokens;
* `closeAngle` — finds the `>` that closes a group, where brackets inside
  parentheses are comparisons and do not count;
* `angleStep` — the change of the running depth at a character.
-/
import DocTree.Declaration.Operator

namespace DocTree

/-- How a character changes the running depth of angle brackets. -/
def angleStep (c : Char) : Int :=
  if c == '<' then 1 else if c == '>' then -1 else 0

/-- Cuts a marked text at the first `target` outside tokens and angle groups,
where `depth` groups are open at its start.  A `>` that closes no group is passed
over. -/
def splitAtTopFrom (target : Char) : Nat → List Marked → Option (Text × Text)
  | _, [] => none
  | depth, (c, true) :: rest =>
    (splitAtTopFrom target depth rest).map fun (before, after) => (c :: before, after)
  | depth, (c, false) :: rest =>
    if c == target && depth == 0 then some ([], c :: unmark rest)
    else
      let depth := if c == '<' then depth + 1 else if c == '>' then depth - 1 else depth
      (splitAtTopFrom target depth rest).map fun (before, after) => (c :: before, after)

/-- The text before the first `target` outside angle groups and operator
tokens, and the text from there on. -/
def splitAtTop (target : Char) (t : Text) : Option (Text × Text) :=
  splitAtTopFrom target 0 (markTokens Operator.tokenLength t)

theorem append_of_splitAtTopFrom {target : Char} {marks : List Marked} :
    ∀ {depth : Nat} {before after : Text},
      splitAtTopFrom target depth marks = some (before, after) →
        before ++ after = unmark marks := by
  induction marks with
  | nil => intro depth before after h; simp [splitAtTopFrom] at h
  | cons m rest ih =>
    obtain ⟨c, mark⟩ := m
    intro depth before after h
    cases mark with
    | true =>
      obtain ⟨⟨b, a⟩, hba, heq⟩ := Option.map_eq_some_iff.mp h
      obtain ⟨rfl, rfl⟩ := Prod.mk.inj heq
      exact congrArg (c :: ·) (ih hba)
    | false =>
      rw [splitAtTopFrom] at h
      split at h
      · obtain ⟨rfl, rfl⟩ := Prod.mk.inj (Option.some.inj h)
        rfl
      · obtain ⟨⟨b, a⟩, hba, heq⟩ := Option.map_eq_some_iff.mp h
        obtain ⟨rfl, rfl⟩ := Prod.mk.inj heq
        exact congrArg (c :: ·) (ih hba)

/-- The cut loses nothing. -/
theorem append_of_splitAtTop {target : Char} {t before after : Text}
    (h : splitAtTop target t = some (before, after)) : before ++ after = t :=
  (append_of_splitAtTopFrom h).trans (map_fst_markTokens _ _)

/-- Reads on after a `<` to the `>` that closes it, with `inner` further groups
open and `parens` round and square brackets.  Returns the text up to and with
the closing bracket, and the text after it. -/
def closeAngle : Nat → Int → Text → Option (Text × Text)
  | _, _, [] => none
  | inner, parens, c :: rest =>
    let proceed (inner : Nat) (parens : Int) :=
      (closeAngle inner parens rest).map fun (group, after) => (c :: group, after)
    if c == '(' || c == '[' then proceed inner (parens + 1)
    else if c == ')' || c == ']' then proceed inner (parens - 1)
    else if parens != 0 then proceed inner parens
    else if c == '<' then proceed (inner + 1) parens
    else if c == '>' then
      if inner = 0 then some ([c], rest) else proceed (inner - 1) parens
    else proceed inner parens

theorem append_of_closeAngle {t : Text} :
    ∀ {inner : Nat} {parens : Int} {group after : Text},
      closeAngle inner parens t = some (group, after) → group ++ after = t := by
  induction t with
  | nil => intro inner parens group after h; simp [closeAngle] at h
  | cons c rest ih =>
    intro inner parens group after h
    have step : ∀ {inner : Nat} {parens : Int},
        (closeAngle inner parens rest).map (fun (group, after) => (c :: group, after)) =
          some (group, after) → group ++ after = c :: rest := by
      intro inner parens h
      obtain ⟨⟨g, a⟩, hga, heq⟩ := Option.map_eq_some_iff.mp h
      obtain ⟨rfl, rfl⟩ := Prod.mk.inj heq
      simp [ih hga]
    rw [closeAngle] at h
    split at h
    · exact step h
    · split at h
      · exact step h
      · split at h
        · exact step h
        · split at h
          · exact step h
          · split at h
            · split at h
              · obtain ⟨rfl, rfl⟩ := Prod.mk.inj (Option.some.inj h)
                rfl
              · exact step h
            · exact step h

/-- A closed group is shorter than what it is read from. -/
theorem length_of_closeAngle {inner : Nat} {parens : Int} {t group after : Text}
    (h : closeAngle inner parens t = some (group, after)) : after.length ≤ t.length := by
  have := append_of_closeAngle h
  rw [← this, List.length_append]
  omega

end DocTree
