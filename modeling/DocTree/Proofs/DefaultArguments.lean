/-
Default arguments.

The minimal form of a function leaves out the default values of its parameters.  Here a
default value is described by itself, as a text in which brackets, angle groups and literals
are closed and every comma is inside one of them, and the scan for the minimal form is
compared with it:

* `Text.collapse_eq_squeeze` — blanks are collapsed from left to right, so that the parts of
  a declaration can be read one after the other;
* `DefaultValue.IsClosed` — a text that may stand as a default value;
* `DefaultValue.State.next_removal` — while the scan removes a default value, it is in step
  with the reading of this value;
* `minimalForm_parameterList` — the minimal form of a declaration does not depend on which
  of its parameters have default values.
-/
import DocTree.Declaration.Minimal
import Mathlib.Data.List.Basic
import Mathlib.Data.List.TakeWhile

namespace DocTree

/-! ### Collapsing blanks from left to right -/

namespace Text

variable {c : Char} {x y t : Text} {gap : Bool}

/-- The text with each run of blanks turned into one space in front of the next character.
The flag tells whether there were blanks before the text; blanks at its end are lost. -/
def squeeze : Bool → Text → Text
  | _, [] => []
  | gap, c :: t =>
    if isBlank c then squeeze true t
    else if gap then ' ' :: c :: squeeze false t
    else c :: squeeze false t

theorem squeeze_blank (hc : isBlank c = true) : squeeze gap (c :: t) = squeeze true t := by
  rw [squeeze, if_pos hc]

theorem squeeze_cons (hc : isBlank c = false) :
    squeeze gap (c :: t) = (if gap then [' ', c] else [c]) ++ squeeze false t := by
  rw [squeeze, if_neg (by simp [hc])]
  cases gap <;> rfl

/-- Squeezing and splitting into words follow the same runs. -/
theorem squeeze_eq_words (t : Text) :
    squeeze true t = t.words.flatMap (' ' :: ·) ∧
      ∀ w ws, t.splitOnP isBlank = w :: ws →
        squeeze false t = w ++ (ws.filter fun v => !v.isEmpty).flatMap (' ' :: ·) := by
  induction t with
  | nil => simp [squeeze, words]
  | cons c t ih =>
    obtain ⟨ihgap, ihword⟩ := ih
    obtain ⟨v, vs, hsplit⟩ := List.exists_cons_of_ne_nil (List.splitOnP_ne_nil isBlank t)
    cases hc : isBlank c with
    | true =>
      have hwords : words (c :: t) = words t := words_append_blank hc [] t
      refine ⟨by rw [squeeze_blank hc, ihgap, hwords], fun w ws h => ?_⟩
      rw [List.splitOnP_cons_eq_if_modifyHead, if_pos hc] at h
      obtain ⟨rfl, rfl⟩ := List.cons.inj h
      rw [squeeze_blank hc, ihgap]
      rfl
    | false =>
      have hcons : (c :: t).splitOnP isBlank = (c :: v) :: vs := by
        rw [List.splitOnP_cons_eq_if_modifyHead, if_neg (by simp [hc]), hsplit]
        rfl
      have hword := ihword v vs hsplit
      constructor
      · rw [squeeze_cons hc, hword, words, hcons]
        simp
      · intro w ws h
        obtain ⟨rfl, rfl⟩ := List.cons.inj (hcons.symm.trans h)
        rw [squeeze_cons hc, hword]
        simp

theorem words_trimStart (t : Text) : words (trimStart t) = words t := by
  induction t with
  | nil => rfl
  | cons c t ih =>
    cases hc : isBlank c with
    | true =>
      have hwords : words (c :: t) = words t := words_append_blank hc [] t
      rw [hwords, ← ih, trimStart, List.dropWhile_cons_of_pos hc]
      rfl
    | false => rw [trimStart, List.dropWhile_cons_of_neg (by simp [hc])]

theorem isBlank_eq_false_of_trimStart (h : trimStart t = c :: x) : isBlank c = false := by
  have hhead := List.head?_dropWhile_not isBlank t
  rw [trimStart] at h
  simpa [h] using hhead

theorem join_cons (separator w : Text) (ws : List Text) :
    join separator (w :: ws) = w ++ ws.flatMap (separator ++ ·) := by
  induction ws generalizing w with
  | nil => simp [join]
  | cons v vs ih =>
    rw [join, List.intercalate_cons_cons]
    have := ih v
    rw [join] at this
    simp [this]

theorem collapse_eq_squeeze (t : Text) : collapse t = squeeze false t.trimStart := by
  rw [collapse, ← words_trimStart]
  cases h : trimStart t with
  | nil => rfl
  | cons c u =>
    have hc := isBlank_eq_false_of_trimStart h
    obtain ⟨v, vs, hsplit⟩ := List.exists_cons_of_ne_nil (List.splitOnP_ne_nil isBlank u)
    rw [squeeze_cons hc, (squeeze_eq_words u).2 v vs hsplit, words,
      List.splitOnP_cons_eq_if_modifyHead, if_neg (by simp [hc]), hsplit, List.modifyHead_cons,
      List.filter_cons_of_pos (by simp), join_cons]
    rfl

/-- Reading goes on anew behind a character that is not blank. -/
theorem squeeze_append_cons (hc : isBlank c = false) :
    squeeze gap (x ++ c :: y) = squeeze gap (x ++ [c]) ++ squeeze false y := by
  induction x generalizing gap with
  | nil => simp [squeeze_cons hc, squeeze]
  | cons d x ih =>
    cases hd : isBlank d with
    | true => rw [List.cons_append, List.cons_append, squeeze_blank hd, squeeze_blank hd, ih]
    | false =>
      rw [List.cons_append, List.cons_append, squeeze_cons hd, squeeze_cons hd, ih,
        List.append_assoc]

theorem trimStart_append_cons (hc : isBlank c = false) :
    trimStart (x ++ c :: y) = trimStart x ++ c :: y := by
  unfold trimStart
  rw [List.dropWhile_append]
  split
  · rename_i hnil
    rw [List.dropWhile_cons_of_neg (by simp [hc]), List.isEmpty_iff.mp hnil]
    rfl
  · rfl

theorem collapse_append_cons (hc : isBlank c = false) :
    collapse (x ++ c :: y) = collapse (x ++ [c]) ++ squeeze false y := by
  rw [collapse_eq_squeeze, collapse_eq_squeeze, trimStart_append_cons hc, trimStart_append_cons hc,
    squeeze_append_cons hc]

theorem mem_squeeze {d : Char} (h : d ∈ squeeze gap t) : d = ' ' ∨ d ∈ t := by
  induction t generalizing gap with
  | nil => simp [squeeze] at h
  | cons e t ih =>
    cases he : isBlank e with
    | true =>
      rw [squeeze_blank he] at h
      exact (ih h).imp_right (List.mem_cons_of_mem e)
    | false =>
      rw [squeeze_cons he, List.mem_append] at h
      rcases h with h | h
      · cases gap <;> simp at h <;> grind
      · exact (ih h).imp_right (List.mem_cons_of_mem e)

/-- The last character, if it is not blank, stays the last. -/
theorem exists_squeeze_concat (hc : isBlank c = false) (gap : Bool) (x : Text) :
    ∃ z, squeeze gap (x ++ [c]) = z ++ [c] ∧ ∀ d ∈ z, d = ' ' ∨ d ∈ x := by
  induction x generalizing gap with
  | nil =>
    refine ⟨if gap then [' '] else [], ?_, ?_⟩
    · rw [List.nil_append, squeeze_cons hc]
      cases gap <;> rfl
    · cases gap <;> simp
  | cons d x ih =>
    cases hd : isBlank d with
    | true =>
      obtain ⟨z, hz, hmem⟩ := ih true
      exact ⟨z, by rw [List.cons_append, squeeze_blank hd, hz], by grind⟩
    | false =>
      obtain ⟨z, hz, hmem⟩ := ih false
      refine ⟨(if gap then [' ', d] else [d]) ++ z, ?_, ?_⟩
      · rw [List.cons_append, squeeze_cons hd, hz, List.append_assoc]
      · cases gap <;> grind

/-- After blanks, a text with a character that is not blank begins with a space. -/
theorem exists_squeeze_true {c : Char} (hc : isBlank c = false) (x : Text) :
    ∃ u, squeeze true (x ++ [c]) = ' ' :: u := by
  induction x with
  | nil => exact ⟨[c], by rw [List.nil_append, squeeze_cons hc]; rfl⟩
  | cons d x ih =>
    cases hd : isBlank d with
    | true =>
      rw [List.cons_append, squeeze_blank hd]
      exact ih
    | false => exact ⟨_, by rw [List.cons_append, squeeze_cons hd]; rfl⟩

end Text

/-! ### Default values -/

namespace DefaultValue

/-- How far a default value has been read. -/
structure State where
  /-- open brackets -/
  depth : Nat := 0
  /-- open angle groups, outside brackets -/
  angles : Nat := 0
  literal : Option Literal := none
deriving DecidableEq, Repr

namespace State

variable {s s' : State} {c : Char}

/-- A character outside literals; `none` for one that ends the value or closes what is not
open. -/
def outside? (s : State) (c : Char) : Option State :=
  if (Literal.opened? c).isSome then some { s with literal := Literal.opened? c }
  else if c == '(' || c == '[' || c == '\x7b' then some { s with depth := s.depth + 1 }
  else if c == ')' || c == ']' || c == '\x7d' then
    if s.depth = 0 then none else some { s with depth := s.depth - 1 }
  else if s.depth ≠ 0 then some s
  else if c == '<' then some { s with angles := s.angles + 1 }
  else if c == '>' then if s.angles = 0 then none else some { s with angles := s.angles - 1 }
  else if c == ',' && s.angles == 0 then none
  else some s

/-- Reads one character of a default value. -/
def next? (s : State) (c : Char) : Option State :=
  match s.literal with
  | some l => some { s with literal := l.next c }
  | none => s.outside? c

theorem next?_of_literal {l : Literal} (h : s.literal = some l) :
    s.next? c = some { s with literal := l.next c } := by
  rw [next?, h]

theorem next?_of_outside (h : s.literal = none) : s.next? c = s.outside? c := by
  rw [next?, h]

/-- A literal that is opened has one of the two quotes, and nothing in it is escaped yet. -/
theorem literal_of_outside? {l : Literal} (hlit : s.literal = none) (h : s.outside? c = some s')
    (hl : s'.literal = some l) : (l.quote = '"' ∨ l.quote = '\x27') ∧ l.escaped = false := by
  have hopen : Literal.opened? c = some l := by
    unfold outside? at h
    grind
  unfold Literal.opened? at hopen
  grind

/-- A literal that is open has one of the two quotes. -/
def IsSound (s : State) : Prop :=
  ∀ l, s.literal = some l → l.quote = '"' ∨ l.quote = '\x27'

theorem isSound_start : IsSound {} := by
  intro l h
  simp at h

theorem IsSound.next? (hs : s.IsSound) (h : s.next? c = some s') : s'.IsSound := by
  cases hlit : s.literal with
  | some l =>
    rw [next?_of_literal hlit] at h
    obtain rfl := Option.some.inj h
    intro l' hl'
    have hquote : l'.quote = l.quote := by
      simp only [Literal.next] at hl'
      grind
    rw [hquote]
    exact hs l hlit
  | none =>
    rw [next?_of_outside hlit] at h
    exact fun l hl => (literal_of_outside? hlit h hl).1

/-- The characters that may change the state. -/
def signs : Text := "\"'()[]\x7b\x7d<>,\\".toList

/-- All other characters leave the state as it is, unless they are escaped. -/
theorem next?_of_not_mem_signs (hs : s.IsSound) (hc : c ∉ signs)
    (hesc : ∀ l, s.literal = some l → l.escaped = false) : s.next? c = some s := by
  have hne : ∀ e ∈ signs, c ≠ e := fun e he heq => hc (heq ▸ he)
  cases hlit : s.literal with
  | none =>
    have hopen : Literal.opened? c = none := by
      simp [Literal.opened?, hne '"' (by decide), hne '\x27' (by decide)]
    rw [next?_of_outside hlit]
    simp [outside?, hopen, hne '(' (by decide), hne '[' (by decide), hne '\x7b' (by decide),
      hne ')' (by decide), hne ']' (by decide), hne '\x7d' (by decide), hne '<' (by decide),
      hne '>' (by decide), hne ',' (by decide)]
  | some l =>
    have hquote : c ≠ l.quote := by
      rcases hs l hlit with h | h <;> rw [h] <;> exact hne _ (by decide)
    have hnext : l.next c = some l := by
      simp [Literal.next, hesc l hlit, hne '\\' (by decide), hquote]
    rw [next?_of_literal hlit, hnext, ← hlit]

theorem escaped_next? (hesc : ∀ l, s.literal = some l → l.escaped = false) (hc : c ≠ '\\')
    (h : s.next? c = some s') : ∀ l, s'.literal = some l → l.escaped = false := by
  cases hlit : s.literal with
  | some l =>
    rw [next?_of_literal hlit] at h
    obtain rfl := Option.some.inj h
    intro l' hl'
    simp only [Literal.next, hesc l hlit] at hl'
    grind
  | none =>
    rw [next?_of_outside hlit] at h
    exact fun l hl => (literal_of_outside? hlit h hl).2

/-- Blanks are alike, and one does as much as several. -/
theorem next?_blank (hs : s.IsSound) (hc : isBlank c = true) :
    ∃ s', s.next? c = some s' ∧ s.next? ' ' = some s' ∧ s'.next? ' ' = some s' := by
  have hsigns : ∀ e ∈ signs, isBlank e = false := List.forall_iff_forall_mem.mp (by decide)
  have hblank : ∀ {e : Char}, isBlank e = true → e ∉ signs := fun he hmem => by
    simp [hsigns _ hmem] at he
  by_cases hesc : ∀ l, s.literal = some l → l.escaped = false
  · have hsame : ∀ {e : Char}, isBlank e = true → s.next? e = some s := fun he =>
      next?_of_not_mem_signs hs (hblank he) hesc
    exact ⟨s, hsame hc, hsame rfl, hsame rfl⟩
  · -- the first blank is escaped
    push Not at hesc
    obtain ⟨l, hlit, hl⟩ := hesc
    have hstep : ∀ e : Char, s.next? e = some { s with literal := some ⟨l.quote, false⟩ } := by
      intro e
      rw [next?_of_literal hlit]
      simp [Literal.next, hl]
    refine ⟨_, hstep c, hstep ' ', next?_of_not_mem_signs (hs.next? (hstep c)) (hblank rfl) ?_⟩
    intro l' hl'
    exact (Option.some.inj hl') ▸ rfl

end State

/-- A text that may stand as a default value: its brackets, angle groups and literals are
closed, and every comma is inside one of them. -/
def IsClosed (d : Text) : Prop := d.foldlM State.next? {} = some {}

instance (d : Text) : Decidable (IsClosed d) := inferInstanceAs (Decidable (_ = _))

/-- Without a backslash nothing is ever escaped, so only the signs matter. -/
theorem foldlM_filter_signs {d : Text} {s : State} (hs : s.IsSound) (hslash : '\\' ∉ d)
    (hesc : ∀ l, s.literal = some l → l.escaped = false) :
    (d.filter State.signs.contains).foldlM State.next? s = d.foldlM State.next? s := by
  induction d generalizing s with
  | nil => rfl
  | cons c d ih =>
    rw [List.mem_cons, not_or] at hslash
    rw [List.foldlM_cons]
    by_cases hc : c ∈ State.signs
    · rw [List.filter_cons_of_pos (by simpa using hc), List.foldlM_cons]
      cases hnext : s.next? c with
      | none => rfl
      | some s' =>
        exact ih (hs.next? hnext) hslash.2 (State.escaped_next? hesc (Ne.symm hslash.1) hnext)
    · rw [List.filter_cons_of_neg (by simpa using hc), State.next?_of_not_mem_signs hs hc hesc]
      exact ih hs hslash.2 hesc

/-- Texts without a backslash that have the same signs are closed together. -/
theorem IsClosed.of_filter_eq {d e : Text} (hd : IsClosed d) (hslash : '\\' ∉ d)
    (h : e.filter State.signs.contains = d.filter State.signs.contains) : IsClosed e := by
  have hslash' : '\\' ∉ e := by
    intro hmem
    have := List.mem_filter.mpr ⟨hmem, (by decide : State.signs.contains '\\' = true)⟩
    rw [h] at this
    exact hslash (List.mem_filter.mp this).1
  have hesc : ∀ l, ({} : State).literal = some l → l.escaped = false := by
    intro l hl
    simp at hl
  unfold IsClosed at hd ⊢
  rwa [← foldlM_filter_signs State.isSound_start hslash' hesc, h,
    foldlM_filter_signs State.isSound_start hslash hesc]

end DefaultValue

/-! ### The scan for the minimal form -/

namespace Minimal.State

variable {s t : State} {c : Char} {x y : Text} {after : Option Char}

theorem next_of_literal {l : Literal} (h : s.literal = some l) :
    s.next c after = { { s with literal := l.next c }.keep c with before := some c } := by
  simp only [next, h]

theorem next_of_outside (h : s.literal = none) (ht : s.outside c after = some t) :
    s.next c after = { t.keep c with before := some c } := by
  simp only [next, h, ht]

/-- Reads a part of a text, with the character after the part. -/
def feed (after : Option Char) : State → Text → State
  | s, [] => s
  | s, c :: rest => feed after (s.next c (rest.head?.or after)) rest

theorem feed_append (after : Option Char) (s : State) (x y : Text) :
    feed after s (x ++ y) = feed after (feed (y.head?.or after) s x) y := by
  induction x generalizing s with
  | nil => rfl
  | cons c x ih =>
    rw [List.cons_append, feed, ih, feed]
    cases x <;> rfl

theorem run_append (s : State) (x y : Text) : s.run (x ++ y) = (feed y.head? s x).run y := by
  induction x generalizing s with
  | nil => rfl
  | cons c x ih =>
    rw [List.cons_append, run, ih, feed]
    cases x <;> rfl

theorem kept_outside (h : s.outside c after = some t) : t.kept = s.kept := by
  unfold outside at h
  grind

/-- What the scan has kept stays, down from a character that is no space. -/
theorem suffix_kept_next {d : Char} {k : Text} (hd : d ≠ ' ') (h : d :: k <:+ s.kept) (c : Char)
    (after : Option Char) : d :: k <:+ (s.next c after).kept := by
  have hkeep : ∀ {t : State} {c : Char}, d :: k <:+ t.kept → d :: k <:+ (t.keep c).kept := by
    intro t c ht
    unfold keep
    split
    · exact ht.trans (List.suffix_cons c t.kept)
    · exact ht
  cases hlit : s.literal with
  | some l =>
    rw [next_of_literal hlit]
    exact hkeep h
  | none =>
    cases hout : s.outside c after with
    | some t =>
      rw [next_of_outside hlit hout]
      exact hkeep (kept_outside hout ▸ h)
    | none =>
      simp only [next, hlit, hout]
      obtain ⟨x, hx⟩ := h
      rw [← hx, List.dropWhile_append]
      split
      · rewrite [List.dropWhile_cons_of_neg (by simpa using hd)]
        exact List.suffix_refl _
      · exact List.suffix_append _ _

theorem mem_kept_next {d : Char} (hd : d ≠ ' ') (h : d ∈ s.kept) (c : Char) (after : Option Char) :
    d ∈ (s.next c after).kept := by
  obtain ⟨front, k, hk⟩ := List.append_of_mem h
  exact (suffix_kept_next hd ⟨front, hk.symm⟩ c after).subset (by simp)

theorem suffix_kept_run {d : Char} {k : Text} (hd : d ≠ ' ') (h : d :: k <:+ s.kept) (x : Text) :
    d :: k <:+ (s.run x).kept := by
  induction x generalizing s with
  | nil => exact h
  | cons c x ih => exact ih (suffix_kept_next hd h c x.head?)

theorem mem_kept_run {d : Char} (hd : d ≠ ' ') (h : d ∈ s.kept) (x : Text) :
    d ∈ (s.run x).kept := by
  induction x generalizing s with
  | nil => exact h
  | cons c x ih => exact ih (mem_kept_next hd h c x.head?)

/-- The characters that open or close a bracket or a literal. -/
def delimiters : Text := "\"'()[]\x7b\x7d".toList

theorem next_of_plain (hlit : s.literal = none) (hrem : s.removing = none) (hc : c ∉ delimiters)
    (heq : s.depth ≠ 1 ∨ c ≠ '=') :
    s.next c after = { s with kept := c :: s.kept, before := some c } := by
  have hne : ∀ e ∈ delimiters, c ≠ e := fun e he h => hc (h ▸ he)
  have hout : s.outside c after = some s := by
    have hopen : Literal.opened? c = none := by
      simp [Literal.opened?, hne '"' (by decide), hne '\x27' (by decide)]
    simp only [outside, hopen, hrem]
    simp [hne '(' (by decide), hne '[' (by decide), hne '\x7b' (by decide),
      hne ')' (by decide), hne ']' (by decide), hne '\x7d' (by decide)]
    grind
  rw [next_of_outside hlit hout, keep, hrem]

/-- Text without brackets and literals is kept, outside the outermost brackets or without
`=`. -/
theorem feed_of_plain (hlit : s.literal = none) (hrem : s.removing = none)
    (hx : ∀ c ∈ x, c ∉ delimiters) (heq : s.depth ≠ 1 ∨ '=' ∉ x) :
    feed after s x = { s with kept := x.reverse ++ s.kept, before := x.getLast?.or s.before } := by
  induction x generalizing s with
  | nil => rfl
  | cons c x ih =>
    have hc : s.depth ≠ 1 ∨ c ≠ '=' := heq.imp_right fun h hc => h (by simp [hc])
    rw [feed, next_of_plain hlit hrem (hx c (by simp)) hc, ih]
    · cases x <;> simp [List.getLast?_cons]
    · exact hlit
    · exact hrem
    · exact fun d hd => hx d (by simp [hd])
    · exact heq.imp_right fun h hmem => h (by simp [hmem])

end Minimal.State

/-! ### Removing a default value -/

namespace DefaultValue

/-- The scan for the minimal form while it removes a default value. -/
def State.removal (s : State) (kept : Text) (before : Option Char) : Minimal.State where
  kept := kept
  before := before
  depth := 1 + s.depth
  literal := s.literal
  removing := some s.angles

/-- Outside literals, the scan and the reading of the value change alike. -/
theorem State.outside_removal {s s' : State} {c : Char} (h : s.outside? c = some s') (kept : Text)
    (before after : Option Char) :
    (s.removal kept before).outside c after = some (s'.removal kept before) := by
  unfold outside? at h
  unfold Minimal.State.outside
  have hone : (s.removal kept before).depth = 1 ↔ s.depth = 0 := by
    simp only [removal]
    omega
  by_cases hopen : (Literal.opened? c).isSome = true
  · rw [if_pos hopen] at h ⊢
    obtain rfl := Option.some.inj h
    rfl
  rw [if_neg hopen] at h ⊢
  by_cases hup : (c == '(' || c == '[' || c == '\x7b') = true
  · rw [if_pos hup] at h ⊢
    obtain rfl := Option.some.inj h
    simp [removal]
    omega
  rw [if_neg hup] at h ⊢
  by_cases hdown : (c == ')' || c == ']' || c == '\x7d') = true
  · rw [if_pos hdown] at h ⊢
    by_cases hdepth : s.depth = 0
    · simp [hdepth] at h
    · rw [if_neg hdepth] at h
      obtain rfl := Option.some.inj h
      rw [if_neg (mt hone.mp hdepth)]
      simp only [removal, Option.some.injEq, Minimal.State.mk.injEq, true_and, and_true]
      omega
  rw [if_neg hdown] at h ⊢
  by_cases hdepth : s.depth = 0
  · rw [if_neg (by simpa using hdepth)] at h
    rw [if_neg (by simpa [hone] using hdepth)]
    simp only [removal] at h ⊢
    grind
  · rw [if_pos hdepth] at h
    obtain rfl := Option.some.inj h
    rw [if_pos (by simpa [hone] using hdepth)]

/-- The step: while the scan removes a default value, it is in step with the reading of the
value, and keeps nothing. -/
theorem State.next_removal {s s' : State} {c : Char} (h : s.next? c = some s') (kept : Text)
    (before after : Option Char) :
    (s.removal kept before).next c after = s'.removal kept (some c) := by
  cases hlit : s.literal with
  | some l =>
    rw [next?_of_literal hlit] at h
    obtain rfl := Option.some.inj h
    exact Minimal.State.next_of_literal hlit
  | none =>
    rw [next?_of_outside hlit] at h
    rw [Minimal.State.next_of_outside hlit (outside_removal h kept before after)]
    rfl

/-- A way to read default values that the scan for the minimal form keeps step with. -/
structure IsInStep (read? : State → Char → Option State) : Prop where
  removal : ∀ {s s' c}, read? s c = some s' → ∀ kept before after,
    (s.removal kept before).next c after = s'.removal kept (some c)
  sound : ∀ {s s' c}, s.IsSound → read? s c = some s' → s'.IsSound
  blank : ∀ {s c}, s.IsSound → isBlank c = true →
    ∃ s', read? s c = some s' ∧ read? s ' ' = some s' ∧ read? s' ' ' = some s'

theorem isInStep_next? : IsInStep State.next? where
  removal := State.next_removal
  sound := State.IsSound.next?
  blank := State.next?_blank

/-- The run: the scan passes over all of a default value, with its blanks collapsed, up to the
character `c` after it. -/
theorem IsInStep.exists_feed_removal {read? : State → Char → Option State} (hread : IsInStep read?)
    {d : Text} {s₀ s s' : State} {gap : Bool} {c : Char}
    (kept : Text) (before after : Option Char) (hc : isBlank c = false) (hs : s₀.IsSound)
    (hgap : (if gap then read? s₀ ' ' else some s₀) = some s)
    (hd : d.foldlM read? s = some s') :
    ∃ before', Minimal.State.feed after (s₀.removal kept before) (Text.squeeze gap (d ++ [c])) =
      (s'.removal kept before').next c after := by
  induction d generalizing s₀ s gap before with
  | nil =>
    obtain rfl : s = s' := by simpa using hd
    rw [List.nil_append, Text.squeeze_cons hc]
    cases gap with
    | false =>
      obtain rfl : s₀ = s := by simpa using hgap
      exact ⟨before, rfl⟩
    | true =>
      have hblank : read? s₀ ' ' = some s := by simpa using hgap
      refine ⟨some ' ', ?_⟩
      rw [← hread.removal hblank kept before (some c)]
      rfl
  | cons e d ih =>
    rw [List.foldlM_cons] at hd
    obtain ⟨s₁, hs₁, hd⟩ := Option.bind_eq_some_iff.mp hd
    have hsound : s.IsSound := by
      cases gap with
      | false => exact (Option.some.inj hgap) ▸ hs
      | true => exact hread.sound hs hgap
    cases he : isBlank e with
    | true =>
      rw [List.cons_append, Text.squeeze_blank he]
      refine ih _ hs ?_ hd
      cases gap with
      | false =>
        obtain rfl : s₀ = s := by simpa using hgap
        obtain ⟨s₂, h₁, h₂, -⟩ := hread.blank hs he
        rw [if_pos rfl, h₂, ← h₁, hs₁]
      | true =>
        -- further blanks change nothing
        have hblank : read? s₀ ' ' = some s := by simpa using hgap
        obtain ⟨s₂, -, h₂, h₃⟩ := hread.blank hs he
        obtain rfl := Option.some.inj (hblank.symm.trans h₂)
        obtain ⟨s₄, h₄, h₅, -⟩ := hread.blank hsound he
        rw [if_pos rfl, h₂, ← hs₁, h₄, ← h₅, h₃]
    | false =>
      rw [List.cons_append, Text.squeeze_cons he]
      obtain ⟨before', hrest⟩ :=
        @ih s₁ s₁ false (some e) (hread.sound hsound hs₁) rfl hd
      refine ⟨before', hrest ▸ ?_⟩
      cases gap with
      | false =>
        obtain rfl : s₀ = s := by simpa using hgap
        rw [if_neg (by simp), List.singleton_append, Minimal.State.feed, hread.removal hs₁]
      | true =>
        have hblank : read? s₀ ' ' = some s := by simpa using hgap
        rw [if_pos rfl, List.cons_append, List.singleton_append, Minimal.State.feed,
          hread.removal hblank, Minimal.State.feed, hread.removal hs₁]

end DefaultValue

/-! ### Parameter lists -/

/-- A parameter of a function, with its default value if it has one. -/
structure Parameter where
  text : Text
  value? : Option Text
deriving DecidableEq, Repr

namespace Parameter

/-- The parameter as a declaration writes it. -/
def written (p : Parameter) : Text :=
  match p.value? with
  | none => p.text
  | some d => p.text ++ " = ".toList ++ d

/-- The parameter does not end in a blank, is without brackets, literals and `=`, and its
default value is closed. -/
structure IsErasable (p : Parameter) : Prop where
  ends : ∃ x e, p.text = x ++ [e] ∧ isBlank e = false
  plain : ∀ c ∈ p.text, c ∉ Minimal.State.delimiters
  noDefault : '=' ∉ p.text
  closed : ∀ d, p.value? = some d → DefaultValue.IsClosed d

end Parameter

/-- Parameters as they stand between the brackets of a declaration. -/
def parameterList (ps : List Text) : Text := Text.join ", ".toList ps

theorem parameterList_cons_cons (p q : Text) (ps : List Text) :
    parameterList (p :: q :: ps) = p ++ ',' :: ' ' :: parameterList (q :: ps) := by
  simp [parameterList, Text.join, List.intercalate_cons_cons]

namespace Minimal.State

variable {kept : Text} {before after : Option Char}

/-- The scan in the outermost brackets, where a parameter may begin or go on. -/
def inList (kept : Text) (before : Option Char) : State where
  kept := kept
  before := before
  depth := 1

/-- A parameter without its default value is kept, with its blanks collapsed. -/
theorem feed_inList {x : Text} (hx : ∀ c ∈ x, c ∉ delimiters) (heq : '=' ∉ x) (gap : Bool) :
    feed after (inList kept before) (Text.squeeze gap x) =
      inList ((Text.squeeze gap x).reverse ++ kept) ((Text.squeeze gap x).getLast?.or before) := by
  refine feed_of_plain rfl rfl (fun c hc => ?_) (.inr fun hc => ?_)
  · rcases Text.mem_squeeze hc with rfl | hc
    · decide
    · exact hx c hc
  · rcases Text.mem_squeeze hc with h | hc
    · exact absurd h (by decide)
    · exact heq hc

/-- A comma or the closing bracket ends a default value as it ends a parameter without one. -/
theorem next_removal_start {c : Char} (hc : c = ',' ∨ c = ')') (before' after' : Option Char) :
    (({} : DefaultValue.State).removal kept before).next c after =
      (inList kept before').next c after' := by
  rcases hc with rfl | rfl <;> rfl

/-- An `=` that is not part of another operator starts a default value, and the spaces in front
of it go. -/
theorem next_default (h : startsDefault before after = true) :
    (inList kept before).next '=' after =
      ({} : DefaultValue.State).removal (kept.dropWhile (· == ' ')) (some '=') := by
  have hout : (inList kept before).outside '=' after = none := by
    simp [outside, inList, Literal.opened?, h]
  simp only [next, hout]
  rfl

/-- The scan passes over ` = ` and a default value, up to the comma or bracket after it. -/
theorem run_default {p d y : Text} {c e : Char} {gap : Bool} (hp : ∃ x, p = x ++ [e])
    (he : isBlank e = false) (hplain : ∀ c ∈ p, c ∉ delimiters) (heq : '=' ∉ p)
    (hd : DefaultValue.IsClosed d) (hc : c = ',' ∨ c = ')') :
    (inList kept before).run (Text.squeeze gap (p ++ " = ".toList ++ d ++ c :: y)) =
      (inList kept before).run (Text.squeeze gap (p ++ c :: y)) := by
  obtain ⟨x, rfl⟩ := hp
  have hcb : isBlank c = false := by rcases hc with rfl | rfl <;> rfl
  have hcut : ∀ rest : Text, Text.squeeze gap (x ++ [e] ++ rest) =
      Text.squeeze gap (x ++ [e]) ++ Text.squeeze false rest := by
    intro rest
    rw [List.append_assoc, List.singleton_append, Text.squeeze_append_cons he]
  obtain ⟨z, hz, -⟩ := Text.exists_squeeze_concat he gap x
  have hfeed : ∀ after, feed after (inList kept before) (Text.squeeze gap (x ++ [e])) =
      inList (e :: (z.reverse ++ kept)) (some e) := by
    intro after
    rw [feed_inList hplain heq, hz]
    simp
  -- the default value with the character that ends it
  have hvalue : Text.squeeze false (" = ".toList ++ (d ++ c :: y)) =
      [' ', '='] ++ (Text.squeeze true (d ++ [c]) ++ Text.squeeze false y) := by
    rw [← Text.squeeze_append_cons hcb]
    rfl
  obtain ⟨u, hu⟩ := Text.exists_squeeze_true hcb d
  obtain ⟨before', hremoval⟩ :
      ∃ before', feed (Text.squeeze false y).head?
          (({} : DefaultValue.State).removal (e :: (z.reverse ++ kept)) (some '='))
          (Text.squeeze true (d ++ [c])) =
        (({} : DefaultValue.State).removal (e :: (z.reverse ++ kept)) before').next c
          (Text.squeeze false y).head? :=
    DefaultValue.isInStep_next?.exists_feed_removal _ _ _ hcb DefaultValue.State.isSound_start rfl
      hd
  have hkept :
      (' ' :: e :: (z.reverse ++ kept)).dropWhile (· == ' ') = e :: (z.reverse ++ kept) := by
    have hne : e ≠ ' ' := by
      rintro rfl
      exact absurd he (by decide)
    simp [hne]
  rw [List.append_assoc, List.append_assoc (x ++ [e]), hcut, hcut, hvalue, run_append, hfeed,
    run_append (y := Text.squeeze false (c :: y)), hfeed, Text.squeeze_cons hcb]
  calc (inList (e :: (z.reverse ++ kept)) (some e)).run
        ([' ', '='] ++ (Text.squeeze true (d ++ [c]) ++ Text.squeeze false y))
      = ((inList (' ' :: e :: (z.reverse ++ kept)) (some ' ')).next '='
          (Text.squeeze true (d ++ [c]) ++ Text.squeeze false y).head?).run
          (Text.squeeze true (d ++ [c]) ++ Text.squeeze false y) := rfl
    _ = (({} : DefaultValue.State).removal (e :: (z.reverse ++ kept)) (some '=')).run
          (Text.squeeze true (d ++ [c]) ++ Text.squeeze false y) := by
        rw [next_default (by simp [startsDefault, hu]), hkept]
    _ = ((({} : DefaultValue.State).removal (e :: (z.reverse ++ kept)) before').next c
          (Text.squeeze false y).head?).run (Text.squeeze false y) := by
        rw [run_append, hremoval]
    _ = (inList (e :: (z.reverse ++ kept)) (some e)).run ([c] ++ Text.squeeze false y) := by
        rw [next_removal_start hc (some e) (Text.squeeze false y).head?]
        rfl

/-- One parameter, whatever comes after it. -/
theorem run_written {p : Parameter} {c : Char} {y : Text} (hp : p.IsErasable)
    (hc : c = ',' ∨ c = ')') (gap : Bool) :
    (inList kept before).run (Text.squeeze gap (p.written ++ c :: y)) =
      (inList kept before).run (Text.squeeze gap (p.text ++ c :: y)) := by
  obtain ⟨x, e, hx, he⟩ := hp.ends
  cases hd : p.value? with
  | none => rw [Parameter.written, hd]
  | some d =>
    rw [Parameter.written, hd]
    exact run_default ⟨x, hx⟩ he hp.plain hp.noDefault (hp.closed d hd) hc

/-- Behind the comma after a parameter, the scan is in the list again. -/
theorem exists_run_comma {p : Parameter} (hp : p.IsErasable) (kept : Text) (before : Option Char)
    (gap : Bool) :
    ∃ kept' before', ∀ y, (inList kept before).run (Text.squeeze gap (p.text ++ ',' :: y)) =
      (inList kept' before').run (Text.squeeze false y) := by
  have hplain : ∀ c ∈ p.text ++ [','], c ∉ delimiters := by
    intro c hc
    rcases List.mem_append.mp hc with hc | hc
    · exact hp.plain c hc
    · obtain rfl := List.mem_singleton.mp hc
      decide
  have hnone : '=' ∉ p.text ++ [','] := by simp [hp.noDefault]
  have hcomma : isBlank ',' = false := by decide
  refine ⟨(Text.squeeze gap (p.text ++ [','])).reverse ++ kept,
    (Text.squeeze gap (p.text ++ [','])).getLast?.or before, fun y => ?_⟩
  rw [Text.squeeze_append_cons hcomma, run_append, feed_inList hplain hnone]

/-- Default values leave no trace in a parameter list. -/
theorem run_parameterList {ps : List Parameter} (hps : ∀ p ∈ ps, p.IsErasable) (gap : Bool)
    (rest : Text) :
    (inList kept before).run
        (Text.squeeze gap (parameterList (ps.map Parameter.written) ++ ')' :: rest)) =
      (inList kept before).run
        (Text.squeeze gap (parameterList (ps.map Parameter.text) ++ ')' :: rest)) := by
  induction ps generalizing kept before gap with
  | nil => rfl
  | cons p ps ih =>
    have hp := hps p (by simp)
    cases ps with
    | nil =>
      simp only [List.map_cons, List.map_nil, parameterList, Text.join, List.intercalate_singleton]
      exact run_written hp (.inr rfl) gap
    | cons q ps =>
      obtain ⟨kept', before', hrun⟩ := exists_run_comma hp kept before gap
      simp only [List.map_cons, parameterList_cons_cons, List.append_assoc, List.cons_append]
        at ih ⊢
      rw [run_written hp (.inl rfl), hrun, hrun]
      exact ih (fun r hr => hps r (by simp [hr])) true

end Minimal.State

/-- At the first bracket of a declaration the scan enters the outermost brackets, with all
kept. -/
theorem run_collapse_open {front z : Text} (hfront : ∀ c ∈ front, c ∉ Minimal.State.delimiters)
    (hz : Text.collapse (front ++ ['(']) = z ++ ['(']) (y : Text) :
    ({} : Minimal.State).run (Text.collapse (front ++ '(' :: y)) =
      (Minimal.State.inList ('(' :: z.reverse) (some '(')).run (Text.squeeze false y) := by
  have hparen : isBlank '(' = false := by decide
  obtain ⟨z', hz', hmem⟩ := Text.exists_squeeze_concat hparen false front.trimStart
  have hcollapse : Text.collapse (front ++ ['(']) = z' ++ ['('] := by
    rw [Text.collapse_eq_squeeze, Text.trimStart_append_cons hparen, hz']
  obtain rfl : z' = z := List.append_cancel_right (hcollapse.symm.trans hz)
  have hplain : ∀ c ∈ z', c ∉ Minimal.State.delimiters := by
    intro c hc
    rcases hmem c hc with rfl | hc
    · decide
    · exact hfront c ((List.dropWhile_sublist _).subset hc)
  rw [Text.collapse_append_cons hparen, Minimal.State.run_append, hz, Minimal.State.feed_append,
    Minimal.State.feed_of_plain rfl rfl hplain (.inl (by decide)), List.append_nil]
  rfl

theorem exists_collapse_open (front : Text) : ∃ z, Text.collapse (front ++ ['(']) = z ++ ['('] := by
  have hparen : isBlank '(' = false := by decide
  obtain ⟨z, hz, -⟩ := Text.exists_squeeze_concat hparen false front.trimStart
  exact ⟨z, by rw [Text.collapse_eq_squeeze, Text.trimStart_append_cons hparen, hz]⟩

theorem exists_run_collapse {front : Text} (hfront : ∀ c ∈ front, c ∉ Minimal.State.delimiters) :
    ∃ kept, ∀ y, ({} : Minimal.State).run (Text.collapse (front ++ '(' :: y)) =
      (Minimal.State.inList ('(' :: kept) (some '(')).run (Text.squeeze false y) := by
  obtain ⟨z, hz⟩ := exists_collapse_open front
  exact ⟨z.reverse, run_collapse_open hfront hz⟩

theorem minimalForm_ne_nil {front : Text} (hfront : ∀ c ∈ front, c ∉ Minimal.State.delimiters)
    (y : Text) : minimalForm (front ++ '(' :: y) ≠ [] := by
  obtain ⟨kept, hrun⟩ := exists_run_collapse hfront
  have hmem : '(' ∈ minimalForm (front ++ '(' :: y) := by
    rw [minimalForm, hrun, List.mem_reverse]
    exact Minimal.State.mem_kept_run (by decide) (by simp [Minimal.State.inList]) _
  exact List.ne_nil_of_mem hmem

/-- **Default arguments are erased.**  The minimal form of a declaration does not depend on
the default values in its parameter list. -/
theorem minimalForm_parameterList {front : Text}
    (hfront : ∀ c ∈ front, c ∉ Minimal.State.delimiters) {ps : List Parameter}
    (hps : ∀ p ∈ ps, p.IsErasable) (rest : Text) :
    minimalForm (front ++ '(' :: (parameterList (ps.map Parameter.written) ++ ')' :: rest)) =
      minimalForm (front ++ '(' :: (parameterList (ps.map Parameter.text) ++ ')' :: rest)) := by
  obtain ⟨kept, hrun⟩ := exists_run_collapse hfront
  rw [minimalForm, minimalForm, hrun, hrun, Minimal.State.run_parameterList hps false rest]

end DocTree
