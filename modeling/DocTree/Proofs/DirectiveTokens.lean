/-
Directive tokens.

A token may hold any characters but blanks and `*`, of which only one group and one run of signs
count.  What it stands for is read as itself once more:

* `Comment.IsDirectives` — signs, or one group and the signs behind it;
* `Comment.isDirectives_directivesOf`, `Comment.directivesOf_eq_self` — these are the texts that
  tokens stand for;
* `Comment.splitAtMarker_eq_some` — a line is cut behind its first marker, whatever follows;
* `Comment.splitToken_splitToken` — so the line that is left of a comment has no directives;
* `Comment.splitToken_marker_append` — and directives written behind a marker are split off.
-/
import DocTree.Proofs.Coverage
import Mathlib.Data.List.DropRight

namespace DocTree.Comment

variable {token path line opening after t : Text} {d : Char}

/-! ### What a token stands for -/

/-- Signs, or one group and the signs behind it.  A group that is not closed has them at its
end. -/
inductive IsDirectives : Text → Prop
  | signs {run : Text} (hrun : ∀ c ∈ run, isSign c = true) : IsDirectives run
  | group {path run : Text} (hpath : ']' ∉ path) (hrun : ∀ c ∈ run, isSign c = true) :
      IsDirectives ('[' :: path ++ ']' :: run)
  | unclosed {path run : Text} (hpath : ']' ∉ path) (hrun : ∀ c ∈ run, isSign c = true) :
      IsDirectives ('[' :: path ++ run)

theorem isDirectives_directivesOf (token : Text) : IsDirectives (directivesOf token) := by
  have hrun : ∀ others : Text,
      ∀ c ∈ (others.dropWhile fun c => !isSign c).takeWhile isSign, isSign c = true :=
    fun others c hc => List.mem_takeWhile_imp hc
  have hpath : ∀ inside : Text, ']' ∉ inside.takeWhile (· != ']') := by
    intro inside hmem
    have := List.mem_takeWhile_imp hmem
    exact absurd this (by decide)
  unfold directivesOf splitGroup
  dsimp only
  cases hopen : token.dropWhile (· != '[') with
  | nil => exact .signs (hrun _)
  | cons c inside =>
    have hc : (c != '[') = false := by
      have := List.head?_dropWhile_not (· != '[') token
      rwa [hopen] at this
    obtain rfl : c = '[' := by simpa using hc
    simp only [List.takeWhile_cons, List.dropWhile_cons, bne_iff_ne, ne_eq, Char.reduceEq,
      not_false_eq_true, if_true]
    cases hclose : inside.dropWhile (· != ']') with
    | nil => exact .unclosed (hpath inside) (hrun _)
    | cons d after =>
      have hd : (d != ']') = false := by
        have := List.head?_dropWhile_not (· != ']') inside
        rwa [hclose] at this
      obtain rfl : d = ']' := by simpa using hd
      have hgroup := IsDirectives.group (hpath inside) (hrun (token.takeWhile (· != '[') ++ after))
      simpa using hgroup

theorem isDirectives_splitToken (line : Text) : IsDirectives (splitToken line).1 := by
  unfold splitToken
  split
  · exact .signs (by simp)
  · exact isDirectives_directivesOf _

/-- Signs are no brackets. -/
theorem bracket_not_mem_of_signs (h : ∀ d ∈ t, isSign d = true) : '[' ∉ t ∧ ']' ∉ t :=
  ⟨fun hmem => absurd (h _ hmem) (by decide), fun hmem => absurd (h _ hmem) (by decide)⟩

theorem bne_of_mem (h : d ∉ t) : ∀ e ∈ t, (e != d) = true :=
  fun _ he => bne_iff_ne.mpr fun heq => h (heq ▸ he)

theorem splitGroup_of_not_mem (h : '[' ∉ token) : splitGroup token = ([], token) := by
  have hdrop : token.dropWhile (· != '[') = [] := List.dropWhile_eq_nil_iff.mpr (bne_of_mem h)
  unfold splitGroup
  dsimp only
  rw [hdrop, List.takeWhile_eq_self_iff.mpr (bne_of_mem h)]
  rfl

/-- A group at the start of a token goes to the first bracket that closes it. -/
theorem splitGroup_group (hpath : ']' ∉ path) (rest : Text) :
    splitGroup ('[' :: path ++ ']' :: rest) = ('[' :: path ++ [']'], rest) := by
  have hinside := bne_of_mem (show ']' ∉ '[' :: path by simp [hpath])
  have htake : ('[' :: path ++ ']' :: rest).takeWhile (· != ']') = '[' :: path := by
    rw [List.takeWhile_append_of_pos hinside, List.takeWhile_cons_of_neg (by decide),
      List.append_nil]
  have hdrop : ('[' :: path ++ ']' :: rest).dropWhile (· != ']') = ']' :: rest := by
    rw [List.dropWhile_append_of_pos hinside, List.dropWhile_cons_of_neg (by decide)]
  have hbefore : ('[' :: path ++ ']' :: rest).takeWhile (· != '[') = [] :=
    List.takeWhile_cons_of_neg (by decide)
  have hopen : ('[' :: path ++ ']' :: rest).dropWhile (· != '[') = '[' :: path ++ ']' :: rest :=
    List.dropWhile_cons_of_neg (by decide)
  unfold splitGroup
  dsimp only
  rw [hbefore, hopen, hdrop, htake]
  rfl

theorem splitGroup_unclosed (hpath : ']' ∉ path) :
    splitGroup ('[' :: path) = ('[' :: path, []) := by
  have hinside := bne_of_mem (show ']' ∉ '[' :: path by simp [hpath])
  have htake := List.takeWhile_eq_self_iff.mpr hinside
  have hdrop := List.dropWhile_eq_nil_iff.mpr hinside
  have hbefore : ('[' :: path).takeWhile (· != '[') = [] := List.takeWhile_cons_of_neg (by decide)
  have hopen : ('[' :: path).dropWhile (· != '[') = '[' :: path :=
    List.dropWhile_cons_of_neg (by decide)
  unfold splitGroup
  dsimp only
  rw [hbefore, hopen, hdrop, htake]

/-- What a token stands for, as a token, stands for itself. -/
theorem directivesOf_eq_self (h : IsDirectives token) : directivesOf token = token := by
  have hsigns : ∀ {run : Text}, (∀ d ∈ run, isSign d = true) →
      (run.dropWhile fun d => !isSign d).takeWhile isSign = run := by
    intro run hrun
    have hdrop : (run.dropWhile fun d => !isSign d) = run := by
      cases run with
      | nil => rfl
      | cons d run => exact List.dropWhile_cons_of_neg (by simp [hrun d (by simp)])
    rw [hdrop, List.takeWhile_eq_self_iff.mpr hrun]
  unfold directivesOf
  cases h with
  | signs hrun =>
    rw [splitGroup_of_not_mem (bracket_not_mem_of_signs hrun).1]
    exact hsigns hrun
  | group hpath hrun =>
    rw [splitGroup_group hpath]
    dsimp only
    rw [hsigns hrun, List.append_assoc, List.singleton_append]
  | @unclosed path run hpath hrun =>
    -- the signs belong to the group
    have hpath' : ']' ∉ path ++ run := by simp [hpath, (bracket_not_mem_of_signs hrun).2]
    rw [List.cons_append, splitGroup_unclosed hpath']
    exact List.append_nil _

/-! ### The line that is left -/

theorem splitAtMarker_marker_append (form : Form) (more : Text) :
    splitAtMarker (form.marker ++ more) = some (form.marker, more) := by
  cases form <;> rfl

theorem length_marker (form : Form) : form.marker.length = 3 := by
  cases form <;> rfl

/-- A line is cut behind its first marker, and stays cut there whatever follows. -/
theorem splitAtMarker_eq_some (h : splitAtMarker line = some (opening, after)) :
    line = opening ++ after ∧ 3 ≤ opening.length ∧
      ∀ more, splitAtMarker (opening ++ more) = some (opening, more) := by
  induction line generalizing opening with
  | nil => exact absurd h (by simp [splitAtMarker])
  | cons d rest ih =>
    rw [splitAtMarker] at h
    cases hopened : opened? (d :: rest) with
    | some found =>
      obtain ⟨form, behind⟩ := found
      rw [hopened] at h
      obtain ⟨rfl, rfl⟩ := Prod.mk.inj (Option.some.inj h)
      exact ⟨opened?_eq_some.mp hopened, (length_marker form).ge, splitAtMarker_marker_append form⟩
    | none =>
      rw [hopened] at h
      obtain ⟨⟨before, behind⟩, hbefore, heq⟩ := Option.map_eq_some_iff.mp h
      obtain ⟨rfl, rfl⟩ := Prod.mk.inj heq
      obtain ⟨hrest, hlength, hsplit⟩ := ih hbefore
      refine ⟨by rw [hrest, List.cons_append], by rw [List.length_cons]; omega, fun more => ?_⟩
      have hnone : opened? (d :: (before ++ more)) = none := by
        -- a marker at the front would be one of the line as it was
        rw [← Option.not_isSome_iff_eq_none, isSome_opened?_iff]
        rintro ⟨form, hform⟩
        have hfront : form.marker <+: d :: before :=
          List.prefix_of_prefix_length_le hform (List.prefix_append (d :: before) more)
            (by rw [length_marker, List.length_cons]; omega)
        have hsome : (opened? (d :: rest)).isSome = true := by
          rw [isSome_opened?_iff, hrest]
          exact ⟨form, hfront.trans (List.prefix_append (d :: before) behind)⟩
        rw [hopened] at hsome
        exact absurd hsome (by simp)
      rw [List.cons_append, splitAtMarker, hnone]
      show (splitAtMarker (before ++ more)).map _ = _
      rw [hsplit]
      rfl

/-- The line that is left has no directives. -/
theorem splitToken_splitToken (line : Text) :
    splitToken (splitToken line).2 = ([], (splitToken line).2) := by
  cases hsplit : splitAtMarker line with
  | none => simp [splitToken, hsplit]
  | some found =>
    obtain ⟨opening, after⟩ := found
    let inToken : Char → Bool := fun c => !isBlank c && c != '*'
    have hleft : (splitToken line).2 = opening ++ after.dropWhile inToken := by
      simp [splitToken, hsplit, inToken]
    have hdrop : (after.dropWhile inToken).dropWhile inToken = after.dropWhile inToken :=
      List.dropWhile_idempotent (p := inToken) _
    have htake : (after.dropWhile inToken).takeWhile inToken = [] := by
      have := List.takeWhile_append_dropWhile (p := inToken) (l := after.dropWhile inToken)
      rw [hdrop] at this
      simpa using this
    rw [hleft, splitToken, (splitAtMarker_eq_some hsplit).2.2]
    show (directivesOf ((after.dropWhile inToken).takeWhile inToken),
      opening ++ (after.dropWhile inToken).dropWhile inToken) = _
    rw [htake, hdrop]
    rfl

/-- Directives behind a marker are split off, if they make up a token. -/
theorem splitToken_marker_append (form : Form) (htoken : IsDirectives token)
    (hinside : ∀ d ∈ token, isBlank d = false ∧ d ≠ '*') (t : Text) :
    splitToken (form.marker ++ token ++ ' ' :: t) = (token, form.marker ++ ' ' :: t) := by
  let inToken : Char → Bool := fun d => !isBlank d && d != '*'
  have hall : ∀ d ∈ token, inToken d = true := by
    intro d hd
    simp [inToken, hinside d hd]
  have hspace : ¬ inToken ' ' = true := by decide
  rw [List.append_assoc, splitToken, splitAtMarker_marker_append]
  show (directivesOf ((token ++ ' ' :: t).takeWhile inToken),
    form.marker ++ (token ++ ' ' :: t).dropWhile inToken) = _
  rw [List.takeWhile_append_of_pos hall, List.takeWhile_cons_of_neg hspace, List.append_nil,
    List.dropWhile_append_of_pos hall, List.dropWhile_cons_of_neg hspace,
    directivesOf_eq_self htoken]

end DocTree.Comment
