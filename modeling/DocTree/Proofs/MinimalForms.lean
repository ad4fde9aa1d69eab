/-
Minimal forms.

A text is minimal if its blanks are collapsed and no default value starts in it.  The minimal form
of a declaration is a text of this kind, and these texts are their own minimal forms, so that
nothing is left to remove in a second scan:

* `Text.IsCollapsed` — blanks stand one at a time, as spaces, between other characters;
* `Minimal.HasDefault` — an `=` starts a default value, told by the brackets and literals that are
  open in front of it and by its neighbours;
* `Minimal.Progress.next` — what the scan has kept so far is minimal in front of what is to come;
* `minimalForm_eq_self_iff` — a text is its own minimal form exactly when it is minimal;
* `minimalForm_minimalForm` — so the minimal form of a minimal form is the form itself.
-/
import DocTree.Proofs.DefaultArguments
import Mathlib.Data.List.Chain

namespace DocTree

/-! ### Collapsed texts -/

namespace Text

variable {t x y : Text} {c : Char}

/-- Blanks are spaces, no two of them are neighbours, and none is the last character. -/
structure IsSpaced (t : Text) : Prop where
  space : ∀ c ∈ t, isBlank c = true → c = ' '
  apart : t.IsChain fun a b => isBlank a = false ∨ isBlank b = false
  last : ∀ c ∈ t.getLast?, isBlank c = false

/-- Blanks stand one at a time, as spaces, between other characters. -/
structure IsCollapsed (t : Text) : Prop extends IsSpaced t where
  first : ∀ c ∈ t.head?, isBlank c = false

theorem isSpaced_nil : IsSpaced [] := ⟨by simp, .nil, by simp⟩

/-- A character that is not blank may stand in front of a spaced text. -/
theorem IsSpaced.cons (ht : IsSpaced t) (hc : isBlank c = false) : IsSpaced (c :: t) where
  space := by
    intro d hd hblank
    rcases List.mem_cons.mp hd with rfl | hd
    · exact absurd (hc.symm.trans hblank) (by simp)
    · exact ht.space d hd hblank
  apart := ht.apart.cons fun _ _ => .inl hc
  last := by
    intro d hd
    cases t with
    | nil =>
      obtain rfl : c = d := by simpa using hd
      exact hc
    | cons e t => exact ht.last d (by simpa using hd)

/-- So may a space, in front of a character that is not blank. -/
theorem IsSpaced.space_cons (ht : IsSpaced (c :: t)) (hc : isBlank c = false) :
    IsSpaced (' ' :: c :: t) where
  space := by
    intro d hd hblank
    rcases List.mem_cons.mp hd with rfl | hd
    · rfl
    · exact ht.space d hd hblank
  apart := ht.apart.cons fun d hd => by
    obtain rfl : c = d := by simpa using hd
    exact .inr hc
  last := fun d hd => ht.last d (by simpa using hd)

theorem IsSpaced.suffix (h : IsSpaced (x ++ y)) : IsSpaced y where
  space := fun c hc => h.space c (List.mem_append_right x hc)
  apart := h.apart.right_of_append
  last := by
    intro c hc
    refine h.last c ?_
    rw [Option.mem_def] at hc ⊢
    rw [List.getLast?_append, hc, Option.some_or]

theorem isSpaced_squeeze (gap : Bool) (t : Text) : IsSpaced (squeeze gap t) := by
  induction t generalizing gap with
  | nil => exact isSpaced_nil
  | cons c t ih =>
    cases hc : isBlank c with
    | true => rw [squeeze_blank hc]; exact ih true
    | false =>
      rw [squeeze_cons hc]
      have hrest := (ih false).cons hc
      cases gap with
      | false => exact hrest
      | true => exact hrest.space_cons hc

/-- Collapsing gives a collapsed text. -/
theorem isCollapsed_collapse (t : Text) : IsCollapsed (collapse t) := by
  rw [collapse_eq_squeeze]
  refine ⟨isSpaced_squeeze false _, fun c hc => ?_⟩
  cases h : trimStart t with
  | nil => simp [h, squeeze] at hc
  | cons d u =>
    have hd := isBlank_eq_false_of_trimStart h
    rw [h, squeeze_cons hd] at hc
    obtain rfl : d = c := by simpa using hc
    exact hd

theorem squeeze_eq_self (h : IsSpaced t) : squeeze false t = t := by
  induction t with
  | nil => rfl
  | cons c t ih =>
    have hrest : IsSpaced t := h.suffix (x := [c])
    cases hc : isBlank c with
    | false => rw [squeeze_cons hc, ih hrest]; rfl
    | true =>
      obtain rfl := h.space c (by simp) hc
      cases t with
      | nil => exact absurd (h.last ' ' (by simp)) (by decide)
      | cons d t =>
        -- a single space comes back in front of the next character
        have hd : isBlank d = false :=
          (h.apart.rel_head? rfl).resolve_left (by simp [hc])
        have htail : squeeze false t = t := by
          have := ih hrest
          rw [squeeze_cons hd] at this
          simpa using this
        rw [squeeze_blank hc, squeeze_cons hd, htail]
        rfl

/-- A collapsed text stays as it is. -/
theorem collapse_eq_self (h : IsCollapsed t) : collapse t = t := by
  have htrim : trimStart t = t := by
    cases t with
    | nil => rfl
    | cons c t =>
      have hc := h.first c rfl
      rw [trimStart, List.dropWhile_cons_of_neg (by simp [hc])]
  rw [collapse_eq_squeeze, htrim, squeeze_eq_self h.toIsSpaced]

/-- Two parts of collapsed texts fit together at a character that is not blank. -/
theorem IsCollapsed.append_cons (hx : IsCollapsed x) (hy : IsSpaced (c :: y))
    (hc : isBlank c = false) : IsCollapsed (x ++ c :: y) where
  space := by
    intro d hd
    rcases List.mem_append.mp hd with hd | hd
    · exact hx.space d hd
    · exact hy.space d hd
  apart := hx.apart.append hy.apart fun d _ e he => by
    obtain rfl : c = e := by simpa using he
    exact .inr hc
  last := by
    intro d hd
    rw [Option.mem_def, List.getLast?_append_of_ne_nil _ (by simp)] at hd
    exact hy.last d hd
  first := by
    intro d hd
    cases x with
    | nil =>
      obtain rfl : c = d := by simpa using hd
      exact hc
    | cons e x => exact hx.first d (by simpa using hd)

/-- A collapsed text is collapsed up to any character that is not blank. -/
theorem IsCollapsed.of_prefix (h : IsCollapsed t) (hx : x <+: t)
    (hlast : ∀ c ∈ x.getLast?, isBlank c = false) : IsCollapsed x where
  space := fun c hc => h.space c (hx.subset hc)
  apart := h.apart.prefix hx
  last := hlast
  first := by
    intro c hc
    obtain ⟨y, rfl⟩ := hx
    refine h.first c ?_
    rw [Option.mem_def] at hc ⊢
    rw [List.head?_append, hc, Option.some_or]

/-- It is collapsed up to any spaces, too. -/
theorem IsCollapsed.dropWhile_space {k : Text} (h : IsCollapsed (k.reverse ++ y)) :
    IsCollapsed (k.dropWhile (· == ' ')).reverse := by
  have hsuffix : k.dropWhile (· == ' ') <:+ k := List.dropWhile_suffix _
  refine h.of_prefix ((List.reverse_prefix.mpr hsuffix).trans (List.prefix_append _ _)) ?_
  intro c hc
  rw [List.getLast?_reverse] at hc
  have hne : c ≠ ' ' := by
    have := List.head?_dropWhile_not (· == ' ') k
    rw [Option.mem_def.mp hc] at this
    simpa using this
  have hmem : c ∈ k.reverse ++ y := by
    have := hsuffix.subset (List.mem_of_head? hc)
    simp [this]
  cases hblank : isBlank c with
  | false => rfl
  | true => exact absurd (h.space c hmem hblank) hne

end Text

/-! ### What is open in a text -/

namespace Minimal

variable {t x y kept rest : Text} {c : Char} {after : Option Char}

/-- What is open behind a text: brackets, negative after a surplus of closing ones, and the
literal. -/
structure Nesting where
  depth : Int := 0
  literal : Option Literal := none
deriving DecidableEq, Repr

/-- Inside the outermost brackets and no others. -/
def Nesting.outermost : Nesting := { depth := 1 }

/-- Reads one more character. -/
def Nesting.next (n : Nesting) (c : Char) : Nesting :=
  match n.literal with
  | some l => { n with literal := l.next c }
  | none =>
    if (Literal.opened? c).isSome then { n with literal := Literal.opened? c }
    else if c == '(' || c == '[' || c == '\x7b' then { n with depth := n.depth + 1 }
    else if c == ')' || c == ']' || c == '\x7d' then { n with depth := n.depth - 1 }
    else n

/-- What is open behind a text. -/
def nesting (t : Text) : Nesting := t.foldl Nesting.next {}

theorem nesting_concat (t : Text) (c : Char) : nesting (t ++ [c]) = (nesting t).next c := by
  rw [nesting, List.foldl_append]
  rfl

/-- A literal that is open has one of the two quotes. -/
theorem quote_of_nesting {l : Literal} (h : (nesting t).literal = some l) :
    l.quote = '"' ∨ l.quote = '\x27' := by
  induction t using List.reverseRecOn generalizing l with
  | nil => simp [nesting] at h
  | append_singleton t c ih =>
    rw [nesting_concat, Nesting.next] at h
    cases hlit : (nesting t).literal with
    | some m =>
      have hquote : l.quote = m.quote := by
        simp only [hlit, Literal.next] at h
        grind
      rw [hquote]
      exact ih hlit
    | none =>
      have hopen : Literal.opened? c = some l := by
        simp only [hlit] at h
        grind
      unfold Literal.opened? at hopen
      grind

/-- A space opens and closes nothing. -/
theorem nesting_eq_outermost_of_space (h : nesting (t ++ [' ']) = .outermost) :
    nesting t = .outermost := by
  rw [nesting_concat] at h
  cases hlit : (nesting t).literal with
  | none =>
    have hsame : (nesting t).next ' ' = nesting t := by
      simp [Nesting.next, hlit, Literal.opened?]
    exact hsame.symm.trans h
  | some l =>
    -- a literal would still be open
    have hquote : l.quote ≠ ' ' := by
      rcases quote_of_nesting hlit with h | h <;> rw [h] <;> decide
    have hopen : (l.next ' ').isSome = true := by
      unfold Literal.next
      grind
    have hclosed : ((nesting t).next ' ').literal = l.next ' ' := by
      simp only [Nesting.next, hlit]
    rw [h] at hclosed
    rw [← hclosed] at hopen
    exact absurd hopen (by decide)

/-! ### Where a default value starts -/

/-- A default value starts in the text, in front of the character `after`: an `=` in the outermost
brackets that is not part of another operator. -/
def HasDefault (t : Text) (after : Option Char) : Prop :=
  ∃ x y, t = x ++ '=' :: y ∧ nesting x = .outermost ∧
    startsDefault x.getLast? (y.head?.or after) = true

theorem not_hasDefault_nil : ¬ HasDefault [] after := by
  rintro ⟨x, y, h, -⟩
  simp at h

theorem hasDefault_concat :
    HasDefault (t ++ [c]) after ↔
      HasDefault t (some c) ∨
        (c = '=' ∧ nesting t = .outermost ∧ startsDefault t.getLast? after = true) := by
  constructor
  · rintro ⟨x, y, h, hnesting, hstarts⟩
    rcases List.eq_nil_or_concat y with rfl | ⟨y, d, rfl⟩
    · obtain ⟨rfl, hc⟩ := List.append_inj' h rfl
      exact .inr ⟨by simpa using hc, hnesting, hstarts⟩
    · rw [List.concat_eq_append, ← List.cons_append, ← List.append_assoc] at h
      obtain ⟨rfl, hc⟩ := List.append_inj' h rfl
      obtain rfl : c = d := by simpa using hc
      refine .inl ⟨x, y, rfl, hnesting, ?_⟩
      rw [List.concat_eq_append, List.head?_append, Option.or_assoc] at hstarts
      simpa using hstarts
  · rintro (⟨x, y, rfl, hnesting, hstarts⟩ | ⟨rfl, hnesting, hstarts⟩)
    · refine ⟨x, y ++ [c], by simp, hnesting, ?_⟩
      rw [List.head?_append, Option.or_assoc]
      simpa using hstarts
    · exact ⟨t, [], rfl, hnesting, hstarts⟩

/-- The character behind a text matters only if both it and the last one of the text are `=`. -/
theorem HasDefault.of_ne (h : HasDefault (t ++ [c]) after) {other : Option Char}
    (hne : c = '=' → other ≠ some '=') : HasDefault (t ++ [c]) other := by
  rw [hasDefault_concat] at h ⊢
  refine h.imp_right fun ⟨hc, hnesting, hstarts⟩ => ⟨hc, hnesting, ?_⟩
  have hafter := hne hc
  unfold startsDefault at hstarts ⊢
  grind

/-- Without the spaces at its end, a text in the outermost brackets is still there, and has no
default value whatever comes behind it. -/
theorem not_hasDefault_dropWhile {k : Text} (hnesting : nesting k.reverse = .outermost)
    (hdefault : ¬ HasDefault k.reverse after) (hlast : k.head? = some '=' → after ≠ some '=') :
    nesting (k.dropWhile (· == ' ')).reverse = .outermost ∧
      ∀ other, ¬ HasDefault (k.dropWhile (· == ' ')).reverse other := by
  induction k generalizing after with
  | nil => exact absurd hnesting (by decide)
  | cons c k ih =>
    rw [List.reverse_cons] at hnesting hdefault
    by_cases hc : c = ' '
    · subst hc
      rw [List.dropWhile_cons_of_pos (by rfl)]
      have hspace : ¬ HasDefault k.reverse (some ' ') := fun h =>
        hdefault (hasDefault_concat.mpr (.inl h))
      exact ih (nesting_eq_outermost_of_space hnesting) hspace (by simp)
    · rw [List.dropWhile_cons_of_neg (by simpa using hc), List.reverse_cons]
      exact ⟨hnesting, fun other h => hdefault (h.of_ne fun heq => hlast (by simp [heq]))⟩

/-! ### The scan -/

namespace State

/-- The scan while it keeps what it reads. -/
def keeping (kept : Text) : State where
  kept := kept
  before := kept.head?
  depth := (nesting kept.reverse).depth
  literal := (nesting kept.reverse).literal

theorem keeping_cons (c : Char) (kept : Text) :
    keeping (c :: kept) =
      { kept := c :: kept
        before := some c
        depth := ((nesting kept.reverse).next c).depth
        literal := ((nesting kept.reverse).next c).literal } := by
  rw [keeping, List.reverse_cons, nesting_concat]
  rfl

/-- The step of a scan that keeps what it reads: a default value starts, or the scan goes on. -/
theorem next_keeping (kept : Text) (c : Char) (after : Option Char) :
    (c = '=' ∧ nesting kept.reverse = .outermost ∧ startsDefault kept.head? after = true ∧
        ((keeping kept).next c after).removing.isSome ∧
        ((keeping kept).next c after).kept = kept.dropWhile (· == ' ')) ∨
      (¬ (c = '=' ∧ nesting kept.reverse = .outermost ∧ startsDefault kept.head? after = true) ∧
        (keeping kept).next c after = keeping (c :: kept)) := by
  rw [keeping_cons]
  generalize hn : nesting kept.reverse = n
  obtain ⟨depth, literal⟩ := n
  cases literal with
  | some l =>
    refine .inr ⟨fun h => by simp [Nesting.outermost] at h, ?_⟩
    rw [next_of_literal (l := l) (by simp [keeping, hn])]
    simp [keeping, keep, hn, Nesting.next]
  | none =>
    have hlit : (keeping kept).literal = none := by simp [keeping, hn]
    by_cases hstart : c = '=' ∧ depth = 1 ∧ startsDefault kept.head? after = true
    · obtain ⟨rfl, rfl, hstart⟩ := hstart
      have hout : (keeping kept).outside '=' after = none := by
        simp [outside, keeping, hn, Literal.opened?, hstart]
      refine .inl ⟨rfl, rfl, hstart, ?_⟩
      simp only [next, hlit, hout]
      exact ⟨rfl, rfl⟩
    · have hkeep : ¬ (c = '=' ∧ (⟨depth, none⟩ : Nesting) = .outermost ∧
          startsDefault kept.head? after = true) := by
        rintro ⟨hc, houter, hs⟩
        exact hstart ⟨hc, congrArg Nesting.depth houter, hs⟩
      refine .inr ⟨hkeep, ?_⟩
      have hout : (keeping kept).outside c after =
          some { keeping kept with
            depth := (Nesting.next ⟨depth, none⟩ c).depth
            literal := (Nesting.next ⟨depth, none⟩ c).literal } := by
        simp only [outside, keeping, hn, Nesting.next]
        grind
      rw [next_of_outside hlit hout]
      simp [keeping, keep]

/-- The step of a scan that removes a default value: it goes on, or the value ends at a comma or a
closing bracket. -/
theorem next_removing {s : State} (h : s.removing.isSome)
    (hnesting : nesting s.kept.reverse = .outermost) (c : Char) (after : Option Char) :
    ((s.next c after).removing.isSome ∧ (s.next c after).kept = s.kept) ∨
      (isBlank c = false ∧ c ≠ '=' ∧ s.next c after = keeping (c :: s.kept)) := by
  obtain ⟨angles, hangles⟩ := Option.isSome_iff_exists.mp h
  cases hlit : s.literal with
  | some l =>
    rw [next_of_literal hlit]
    exact .inl ⟨by simp [keep, hangles], by simp [keep, hangles]⟩
  | none =>
    cases hout : s.outside c after with
    | none =>
      simp only [outside, hangles] at hout
      grind
    | some t =>
      rw [next_of_outside hlit hout]
      cases ht : t.removing with
      | some b =>
        exact .inl ⟨by simp [keep, ht], by simp [keep, ht, kept_outside hout]⟩
      | none =>
        -- the value ends in the outermost brackets only
        have hend : ((c = ',' ∧ t.depth = 1) ∨
            ((c = ')' ∨ c = ']' ∨ c = '\x7d') ∧ t.depth = 0)) ∧ t.literal = none := by
          simp only [outside, hangles] at hout
          grind
        have hkept := kept_outside hout
        have hnext : (⟨t.depth, t.literal⟩ : Nesting) = Nesting.outermost.next c := by
          obtain ⟨⟨rfl, hdepth⟩ | ⟨rfl | rfl | rfl, hdepth⟩, htlit⟩ := hend <;>
          · rw [hdepth, htlit]
            rfl
        refine .inr ⟨?_, ?_, ?_⟩
        · obtain ⟨⟨rfl, -⟩ | ⟨rfl | rfl | rfl, -⟩, -⟩ := hend <;> rfl
        · obtain ⟨⟨rfl, -⟩ | ⟨rfl | rfl | rfl, -⟩, -⟩ := hend <;> decide
        · rw [keeping_cons, hnesting, ← hnext]
          simp [keep, ht, hkept]

/-- A scan that meets no default value keeps everything. -/
theorem run_keeping (kept : Text) (h : ¬ HasDefault (kept.reverse ++ rest) none) :
    (keeping kept).run rest = keeping (rest.reverse ++ kept) := by
  induction rest generalizing kept with
  | nil => rfl
  | cons c rest ih =>
    rcases next_keeping kept c rest.head? with ⟨rfl, houter, hstarts, -⟩ | ⟨-, hnext⟩
    · refine absurd ⟨kept.reverse, rest, rfl, houter, ?_⟩ h
      rw [Option.or_none, List.getLast?_reverse]
      exact hstarts
    · rw [run, hnext, ih (c :: kept) (by simpa using h)]
      simp

end State

/-! ### What the scan has kept -/

/-- A text is minimal: its blanks are collapsed, and no default value starts in it. -/
structure IsMinimal (t : Text) : Prop where
  collapsed : t.IsCollapsed
  noDefault : ¬ HasDefault t none

/-- The scan in front of the rest of a collapsed text.  While it keeps what it reads, what it has
kept goes on with the rest; while it removes a default value, what it has kept goes on with the
character that ends this value, whatever that is. -/
inductive Progress : State → Text → Prop
  | keeping (kept : Text) {rest : Text} (hdefault : ¬ HasDefault kept.reverse rest.head?)
      (hcollapsed : Text.IsCollapsed (kept.reverse ++ rest)) : Progress (.keeping kept) rest
  | removing {s : State} {rest : Text} (hremoving : s.removing.isSome)
      (houter : nesting s.kept.reverse = .outermost)
      (hdefault : ∀ after, ¬ HasDefault s.kept.reverse after)
      (hcollapsed : Text.IsCollapsed s.kept.reverse) (hrest : rest.IsSpaced) : Progress s rest

/-- The step: what has been kept stays minimal. -/
theorem Progress.next {s : State} (h : Progress s (c :: rest)) :
    Progress (s.next c rest.head?) rest := by
  cases h with
  | keeping kept hdefault hcollapsed =>
    rcases State.next_keeping kept c rest.head? with
      ⟨rfl, houter, hstarts, hremoving, hkept⟩ | ⟨hno, hnext⟩
    · -- the `=` in front of which the spaces go does not stand behind another one
      have hlast : kept.head? = some '=' → (some '=' : Option Char) ≠ some '=' := by
        intro h
        rw [h] at hstarts
        exact absurd hstarts (by simp [startsDefault])
      obtain ⟨houter', hdefault'⟩ := not_hasDefault_dropWhile houter hdefault hlast
      rw [← hkept] at houter' hdefault'
      have hrest : Text.IsSpaced ('=' :: rest) := hcollapsed.suffix
      exact .removing hremoving houter' hdefault' (hkept ▸ hcollapsed.dropWhile_space)
        (hrest.suffix (x := ['=']))
    · rw [hnext]
      refine .keeping _ ?_ (by simpa using hcollapsed)
      rw [List.reverse_cons, hasDefault_concat, List.getLast?_reverse]
      exact fun h => h.elim hdefault hno
  | removing hremoving houter hdefault hcollapsed hrest =>
    rcases State.next_removing hremoving houter c rest.head? with
      ⟨hremoving', hkept⟩ | ⟨hc, hne, hnext⟩
    · exact .removing hremoving' (hkept ▸ houter) (hkept ▸ hdefault) (hkept ▸ hcollapsed)
        (hrest.suffix (x := [c]))
    · rw [hnext]
      refine .keeping _ ?_ (by simpa using hcollapsed.append_cons hrest hc)
      rw [List.reverse_cons, hasDefault_concat]
      exact fun h => h.elim (hdefault _) fun h => hne h.1

/-- The run: in the end, what has been kept is minimal. -/
theorem Progress.isMinimal_run {s : State} (h : Progress s rest) :
    IsMinimal (s.run rest).kept.reverse := by
  induction rest generalizing s with
  | nil =>
    cases h with
    | keeping kept hdefault hcollapsed =>
      rw [List.append_nil] at hcollapsed
      exact ⟨hcollapsed, hdefault⟩
    | removing _ _ hdefault hcollapsed _ => exact ⟨hcollapsed, hdefault none⟩
  | cons c rest ih => exact ih h.next

end Minimal

/-! ### Minimal forms -/

/-- Every minimal form is minimal. -/
theorem isMinimal_minimalForm (t : Text) : Minimal.IsMinimal (minimalForm t) :=
  Minimal.Progress.isMinimal_run
    (.keeping [] Minimal.not_hasDefault_nil t.isCollapsed_collapse)

/-- A text is its own minimal form exactly when it is minimal. -/
theorem minimalForm_eq_self_iff {t : Text} : minimalForm t = t ↔ Minimal.IsMinimal t := by
  refine ⟨fun h => h ▸ isMinimal_minimalForm t, fun h => ?_⟩
  rw [minimalForm, Text.collapse_eq_self h.collapsed]
  refine (congrArg (fun s : Minimal.State => s.kept.reverse)
    (Minimal.State.run_keeping [] h.noDefault)).trans ?_
  simp [Minimal.State.keeping]

/-- **The minimal form is idempotent.**  In a minimal form there is nothing left to remove. -/
theorem minimalForm_minimalForm (t : Text) : minimalForm (minimalForm t) = minimalForm t :=
  minimalForm_eq_self_iff.mpr (isMinimal_minimalForm t)

end DocTree
