/-
Parameters that survive.

The scan for the minimal form takes every `<` in a default value for an open angle group, in which
a comma does not end the value, so that a comparison may swallow the parameters behind it:

* `DefaultValue.IsEnclosed` — a text whose brackets and literals are closed, with no comma outside
  of them; angle brackets need not match;
* `Parameter.surviving` — the parameters that do not stand behind an open angle group;
* `Minimal.State.exists_run_tail` — each of them leaves its comma, and nothing else leaves one;
* `exists_minimalForm_signature` — so the minimal form has as many parameters as survive.
-/
import DocTree.Proofs.DefaultArguments
import Mathlib.Data.List.Induction

namespace DocTree

/-! ### Blanks -/

namespace Text

variable {t x y : Text} {c e : Char} {gap : Bool}

theorem squeeze_append_blank (he : isBlank e = true) :
    squeeze gap (x ++ e :: y) = squeeze gap x ++ squeeze true y := by
  induction x generalizing gap with
  | nil => exact squeeze_blank he
  | cons d x ih =>
    cases hd : isBlank d with
    | true => rw [List.cons_append, squeeze_blank hd, squeeze_blank hd, ih]
    | false => rw [List.cons_append, squeeze_cons hd, squeeze_cons hd, ih, List.append_assoc]

theorem head?_squeeze_true_ne (hc : c ≠ ' ') (t : Text) : (squeeze true t).head? ≠ some c := by
  induction t with
  | nil => simp [squeeze]
  | cons d t ih =>
    cases hd : isBlank d with
    | true =>
      rw [squeeze_blank hd]
      exact ih
    | false =>
      rw [squeeze_cons hd]
      simpa using Ne.symm hc

/-- A text that is not blank ends, squeezed, in a character that is not blank. -/
theorem exists_squeeze_eq_concat (h : ∃ c ∈ t, isBlank c = false) (gap : Bool) :
    ∃ z e, squeeze gap t = z ++ [e] ∧ isBlank e = false := by
  induction t using List.reverseRecOn generalizing gap with
  | nil => simp at h
  | append_singleton t e ih =>
    cases he : isBlank e with
    | true =>
      obtain ⟨c, hc, hblank⟩ := h
      have hmem : c ∈ t := by
        rcases List.mem_append.mp hc with hc | hc
        · exact hc
        · obtain rfl := List.mem_singleton.mp hc
          exact absurd (he.symm.trans hblank) (by simp)
      rw [squeeze_append_blank he, squeeze, List.append_nil]
      exact ih ⟨c, hmem, hblank⟩ gap
    | false =>
      obtain ⟨z, hz, -⟩ := exists_squeeze_concat he gap t
      exact ⟨z, e, hz, he⟩

/-- In front of a character that is not blank, a text leaves a space or its last character. -/
theorem exists_squeeze_append (h : ∃ c ∈ t, isBlank c = false) (gap : Bool) :
    ∃ space b, (space = [] ∨ space = [' ']) ∧ (squeeze gap t ++ space).getLast? = some b ∧
      (b = ' ' ∨ t.getLast? = some b) ∧ ∀ c y, isBlank c = false →
        squeeze gap (t ++ c :: y) = squeeze gap t ++ space ++ squeeze false (c :: y) := by
  rcases List.eq_nil_or_concat t with rfl | ⟨t, e, rfl⟩
  · simp at h
  · -- what is left depends on whether the text ends in a blank
    rw [List.concat_eq_append] at h ⊢
    cases he : isBlank e with
    | true =>
      refine ⟨[' '], ' ', .inr rfl, by simp, .inl rfl, fun c y hc => ?_⟩
      rw [List.append_assoc, List.singleton_append, squeeze_append_blank he,
        squeeze_append_blank he, squeeze_cons hc, squeeze_cons hc]
      simp [squeeze]
    | false =>
      obtain ⟨z, hz, -⟩ := exists_squeeze_concat he gap t
      refine ⟨[], e, .inl rfl, by simp [hz], .inr (by simp), fun c y _ => ?_⟩
      rw [List.append_assoc, List.singleton_append, squeeze_append_cons he, List.append_nil]

end Text

/-! ### Default values with any angle brackets -/

namespace DefaultValue

variable {s s' : State} {c : Char} {d : Text}

/-- Reads one character of a default value, where a `>` need not close anything, and a comma may
stand in brackets and literals only. -/
def State.skip? (s : State) (c : Char) : Option State :=
  match s.literal with
  | some l => some { s with literal := l.next c }
  | none =>
    if s.depth = 0 ∧ c = ',' then none
    else if s.depth = 0 ∧ c = '>' then some { s with angles := s.angles - 1 }
    else s.outside? c

/-- A text whose brackets and literals are closed, without a comma outside of them. -/
def IsEnclosed (d : Text) : Prop :=
  (d.foldlM State.skip? {}).map (fun s => (s.depth, s.literal)) = some (0, none)

instance (d : Text) : Decidable (IsEnclosed d) := inferInstanceAs (Decidable (_ = _))

/-- The angle groups that are open behind a text, when `a` were open before it. -/
def anglesAfter (a : Nat) (d : Text) : Nat :=
  ((d.foldlM State.skip? { angles := a }).map State.angles).getD a

theorem State.skip?_eq_next? (hc : c ≠ ',') (hc' : c ≠ '>') : s.skip? c = s.next? c := by
  unfold skip? next?
  cases s.literal <;> simp [hc, hc']

/-- The scan for the minimal form keeps step with this reading, too. -/
theorem isInStep_skip? : IsInStep State.skip? where
  removal := by
    rintro ⟨depth, angles, _ | l⟩ s' c h kept before after
    · simp only [State.skip?] at h
      by_cases hcomma : depth = 0 ∧ c = ','
      · simp [hcomma] at h
      rw [if_neg hcomma] at h
      by_cases hclose : depth = 0 ∧ c = '>'
      · obtain ⟨rfl, rfl⟩ := hclose
        obtain rfl : { depth := 0, angles := angles - 1 } = s' := by simpa using h
        rfl
      · rw [if_neg hclose] at h
        rw [Minimal.State.next_of_outside rfl (State.outside_removal h kept before after)]
        rfl
    · obtain rfl := Option.some.inj h
      exact Minimal.State.next_of_literal rfl
  sound := by
    intro s s' c hs h
    by_cases hc : c = ',' ∨ c = '>'
    · cases hlit : s.literal with
      | some l =>
        have hnext : s.next? c = some s' := by
          rw [← h, State.next?_of_literal hlit]
          simp only [State.skip?, hlit]
        exact hs.next? hnext
      | none =>
        simp only [State.skip?, hlit] at h
        have hopen : Literal.opened? c = none := by rcases hc with rfl | rfl <;> rfl
        have hnone : s'.literal = none := by
          unfold State.outside? at h
          grind
        intro l hl
        rw [hnone] at hl
        exact absurd hl (by simp)
    · push Not at hc
      exact hs.next? ((State.skip?_eq_next? hc.1 hc.2).symm.trans h)
  blank := by
    intro s c hs hc
    have hsame : ∀ (s : State) (e : Char), isBlank e = true → s.skip? e = s.next? e := by
      intro s e he
      refine State.skip?_eq_next? ?_ ?_ <;>
      · rintro rfl
        exact absurd he (by decide)
    obtain ⟨s', h₁, h₂, h₃⟩ := State.next?_blank hs hc
    exact ⟨s', by rw [hsame s c hc, h₁], by rw [hsame s ' ' rfl, h₂], by rw [hsame s' ' ' rfl, h₃]⟩

/-- Whether a text can be read does not depend on the angle groups. -/
theorem exists_skip?_angles (h : s.skip? c = some s') (a : Nat) :
    ∃ b, { s with angles := a }.skip? c = some { s' with angles := b } := by
  obtain ⟨depth, angles, _ | l⟩ := s
  · simp only [State.skip?, State.outside?] at h ⊢
    grind
  · obtain rfl := Option.some.inj h
    exact ⟨a, rfl⟩

theorem exists_foldlM_skip?_angles (h : d.foldlM State.skip? s = some s') (a : Nat) :
    ∃ b, d.foldlM State.skip? { s with angles := a } = some { s' with angles := b } := by
  induction d generalizing s a with
  | nil =>
    obtain rfl : s = s' := by simpa using h
    exact ⟨a, rfl⟩
  | cons c d ih =>
    rw [List.foldlM_cons] at h
    obtain ⟨s₁, hs₁, h⟩ := Option.bind_eq_some_iff.mp h
    obtain ⟨b, hb⟩ := exists_skip?_angles hs₁ a
    obtain ⟨b', hb'⟩ := ih h b
    exact ⟨b', by rw [List.foldlM_cons, hb]; exact hb'⟩

theorem IsEnclosed.foldlM_eq (h : IsEnclosed d) (a : Nat) :
    d.foldlM State.skip? { angles := a } = some { angles := anglesAfter a d } := by
  obtain ⟨⟨depth, angles, literal⟩, hs, hclosed⟩ := Option.map_eq_some_iff.mp h
  obtain ⟨rfl, rfl⟩ := Prod.mk.inj hclosed
  obtain ⟨b, hb⟩ := exists_foldlM_skip?_angles hs a
  rw [anglesAfter, hb]
  rfl

/-- Text without signs leaves the angle groups as they are. -/
theorem foldlM_skip?_of_plain (hd : ∀ c ∈ d, c ∉ ("\"'()[]\x7b\x7d<>,".toList : Text)) (a : Nat) :
    d.foldlM State.skip? { angles := a } = some { angles := a } := by
  induction d with
  | nil => rfl
  | cons c d ih =>
    have hstep : ({ angles := a } : State).skip? c = some { angles := a } := by
      have hc := hd c (by simp)
      simp only [State.skip?, State.outside?, Literal.opened?]
      simp at hc
      grind
    rw [List.foldlM_cons, hstep]
    exact ih fun e he => hd e (by simp [he])

end DefaultValue

/-! ### Parameters -/

namespace Parameter

variable {p : Parameter} {a : Nat}

/-- The parameter as it stands between commas; the blanks around its parts belong to them. -/
def listed (p : Parameter) : Text :=
  match p.value? with
  | none => p.text
  | some d => p.text ++ '=' :: d

/-- The characters that a parameter is without. -/
def reserved : Text := "\"'()[]\x7b\x7d<>,=".toList

/-- The parameter is not blank and without reserved characters.  Its default value is closed in
brackets and literals and without a comma outside of them, and the `=` before it is not part of
another operator. -/
structure IsListable (p : Parameter) : Prop where
  nonblank : ∃ c ∈ p.text, isBlank c = false
  plain : ∀ c ∈ p.text, c ∉ reserved
  enclosed : ∀ d ∈ p.value?, DefaultValue.IsEnclosed d
  starts : ∀ d ∈ p.value?, Minimal.startsDefault p.text.getLast? d.head? = true

theorem isListable_iff : p.IsListable ↔
    (p.text.any fun c => !isBlank c) = true ∧ (p.text.all fun c => !reserved.contains c) = true ∧
      ∀ d ∈ p.value?, DefaultValue.IsEnclosed d ∧
        Minimal.startsDefault p.text.getLast? d.head? = true := by
  simp only [List.any_eq_true, List.all_eq_true, Bool.not_eq_true', List.contains_eq_mem,
    decide_eq_false_iff_not]
  exact ⟨fun h => ⟨h.nonblank, h.plain, fun d hd => ⟨h.enclosed d hd, h.starts d hd⟩⟩,
    fun ⟨h₁, h₂, h₃⟩ => ⟨h₁, h₂, fun d hd => (h₃ d hd).1, fun d hd => (h₃ d hd).2⟩⟩

instance (p : Parameter) : Decidable p.IsListable := decidable_of_iff' _ isListable_iff

/-- The angle groups that are open behind the parameter, when `a` were open before it. -/
def leaves (p : Parameter) (a : Nat) : Nat :=
  match p.value? with
  | none => a
  | some d => DefaultValue.anglesAfter a d

theorem getD_map_anglesAfter (p : Parameter) :
    (p.value?.map (DefaultValue.anglesAfter 0)).getD 0 = p.leaves 0 := by
  rw [leaves]
  cases p.value? <;> rfl

/-- The parameters that do not stand behind an open angle group, when `a` are open before the
first. -/
def surviving : Nat → List Parameter → List Parameter
  | _, [] => []
  | a, p :: ps => if a = 0 then p :: surviving (p.leaves a) ps else surviving (p.leaves a) ps

/-- All parameters survive when none but the last leaves an angle group open. -/
theorem surviving_eq_self {ps : List Parameter} (h : ∀ p ∈ ps.dropLast, p.leaves 0 = 0) :
    surviving 0 ps = ps := by
  induction ps with
  | nil => rfl
  | cons p ps ih =>
    rw [surviving, if_pos rfl]
    cases ps with
    | nil => rfl
    | cons q ps =>
      rw [h p (by simp), ih fun r hr => h r (by simp [hr])]

theorem IsListable.foldlM_listed (hp : p.IsListable) (a : Nat) :
    p.listed.foldlM DefaultValue.State.skip? { angles := a } = some { angles := p.leaves a } := by
  have htext := DefaultValue.foldlM_skip?_of_plain
    (fun c hc hsign => hp.plain c hc (List.mem_append_left ['='] hsign)) a
  cases hd : p.value? with
  | none => rw [listed, leaves, hd]; exact htext
  | some d =>
    rw [listed, leaves, hd, List.foldlM_append, htext]
    exact (hp.enclosed d hd).foldlM_eq a

end Parameter

/-! ### The scan over parameters -/

namespace Minimal.State

open DefaultValue (anglesAfter)

variable {p : Parameter} {kept y x : Text} {before : Option Char} {c : Char} {gap : Bool}
  {a b : Nat} {r : Option Nat}

/-- The scan in the outermost brackets, outside literals. -/
def between (r : Option Nat) (kept : Text) (before : Option Char) : State where
  kept := kept
  before := before
  depth := 1
  removing := r

/-- Passing over a text while a default value is removed. -/
theorem exists_run_skipped
    (hx : x.foldlM DefaultValue.State.skip? { angles := a } = some { angles := b })
    (hc : isBlank c = false) (kept : Text) (before : Option Char) (y : Text) :
    ∃ before', (between (some a) kept before).run (Text.squeeze false (x ++ c :: y)) =
      (between (some b) kept before').run (Text.squeeze false (c :: y)) := by
  obtain ⟨before', hfeed⟩ :
      ∃ before', feed (Text.squeeze false y).head?
          (({ angles := a } : DefaultValue.State).removal kept before)
          (Text.squeeze false (x ++ [c])) =
        (({ angles := b } : DefaultValue.State).removal kept before').next c
          (Text.squeeze false y).head? :=
    DefaultValue.isInStep_skip?.exists_feed_removal _ _ _ hc (fun l hl => by simp at hl) rfl hx
  refine ⟨before', ?_⟩
  rw [Text.squeeze_append_cons hc, run_append, Text.squeeze_cons hc]
  exact congrArg (fun s : State => s.run (Text.squeeze false y)) hfeed

/-- The character before and the one after the `=` of a parameter, with blanks collapsed. -/
theorem startsDefault_squeeze {d : Text} {b : Char} (hp : p.IsListable) (hd : p.value? = some d)
    (hb : b = ' ' ∨ p.text.getLast? = some b) (hc : c = ',' ∨ c = ')') (y : Text) :
    startsDefault (some b) (Text.squeeze false (d ++ c :: y)).head? = true := by
  obtain ⟨hbefore, hafter⟩ : (p.text.getLast?.any "=!<>".toList.contains) = false ∧
      d.head? ≠ some '=' := by
    simpa [startsDefault] using hp.starts d hd
  have hleft : "=!<>".toList.contains b = false := by
    rcases hb with rfl | hb
    · decide
    · simpa [hb] using hbefore
  have hright : (Text.squeeze false (d ++ c :: y)).head? ≠ some '=' := by
    cases d with
    | nil =>
      have hcb : isBlank c = false := by rcases hc with rfl | rfl <;> rfl
      rw [List.nil_append, Text.squeeze_cons hcb]
      rcases hc with rfl | rfl <;> simp
    | cons e d =>
      rw [List.cons_append]
      cases he : isBlank e with
      | true =>
        rw [Text.squeeze_blank he]
        exact Text.head?_squeeze_true_ne (by decide) _
      | false =>
        rw [Text.squeeze_cons he]
        simpa using hafter
  simp only [startsDefault, Option.any_some, hleft]
  simpa using hright

/-- A parameter that survives is kept, and its default value is removed. -/
theorem exists_run_listed (hp : p.IsListable) (hc : c = ',' ∨ c = ')') (gap : Bool) (kept : Text)
    (before : Option Char) (y : Text) :
    ∃ z before', (between none kept before).run (Text.squeeze gap (p.listed ++ c :: y)) =
        (between (p.value?.map (anglesAfter 0)) (z ++ kept) before').run
          (Text.squeeze false (c :: y)) ∧
      ',' ∉ z ∧ ∃ e ∈ z, e ≠ ' ' := by
  have hcb : isBlank c = false := by rcases hc with rfl | rfl <;> rfl
  obtain ⟨space, b, hspace, hlast, hb, hcut⟩ := Text.exists_squeeze_append hp.nonblank gap
  obtain ⟨z, e, hz, he⟩ := Text.exists_squeeze_eq_concat hp.nonblank gap
  have hne : e ≠ ' ' := by
    rintro rfl
    exact absurd he (by decide)
  have hmem : ∀ f ∈ Text.squeeze gap p.text ++ space, f = ' ' ∨ f ∈ p.text := by
    intro f hf
    rcases List.mem_append.mp hf with hf | hf
    · exact Text.mem_squeeze hf
    · rcases hspace with rfl | rfl <;> simp_all
  have hreserved : ∀ f ∈ Text.squeeze gap p.text ++ space, f ∉ Parameter.reserved := by
    intro f hf
    rcases hmem f hf with rfl | hf
    · decide
    · exact hp.plain f hf
  have hfeed : ∀ after, feed after (between none kept before) (Text.squeeze gap p.text ++ space) =
      between none ((Text.squeeze gap p.text ++ space).reverse ++ kept) (some b) := by
    intro after
    have hdelimiters : ∀ f ∈ delimiters, f ∈ Parameter.reserved :=
      List.forall_iff_forall_mem.mp (by decide)
    rw [feed_of_plain rfl rfl (fun f hf hdel => hreserved f hf (hdelimiters f hdel))
      (.inr fun hf => hreserved '=' hf (by decide)), hlast]
    rfl
  cases hd : p.value? with
  | none =>
    refine ⟨(Text.squeeze gap p.text ++ space).reverse, some b, ?_, ?_, e, ?_, hne⟩
    · rw [Parameter.listed, hd, hcut c y hcb, run_append, hfeed]
      rfl
    · rw [List.mem_reverse]
      exact fun hcomma => hreserved ',' hcomma (by decide)
    · simp [hz]
  | some d =>
    -- the space in front of the `=` goes, and no more: the parameter is not blank
    have hdrop : ((Text.squeeze gap p.text ++ space).reverse ++ kept).dropWhile (· == ' ') =
        (Text.squeeze gap p.text).reverse ++ kept := by
      rw [hz]
      rcases hspace with rfl | rfl <;> simp [hne]
    obtain ⟨before', hskip⟩ := exists_run_skipped ((hp.enclosed d hd).foldlM_eq 0) hcb
      ((Text.squeeze gap p.text).reverse ++ kept) (some '=') y
    refine ⟨(Text.squeeze gap p.text).reverse, before', ?_, ?_, e, ?_, hne⟩
    · have hstart : ∀ after, startsDefault (some b) after = true →
          (between none ((Text.squeeze gap p.text ++ space).reverse ++ kept) (some b)).next '='
              after =
            between (some 0) ((Text.squeeze gap p.text).reverse ++ kept) (some '=') :=
        fun after h => hdrop ▸ next_default h
      rw [Parameter.listed, hd, List.append_assoc, List.cons_append, hcut '=' _ (by decide),
        run_append, hfeed, Text.squeeze_cons (by decide), if_neg (by simp), List.singleton_append,
        run, hstart _ (startsDefault_squeeze hp hd hb hc y), hskip]
      rfl
    · rw [List.mem_reverse]
      exact fun hcomma => hreserved ',' (List.mem_append_left _ hcomma) (by decide)
    · simp [hz]

/-- The parameters after the first, as they stand in a list. -/
def tail (ps : List Parameter) : Text := ps.flatMap fun p => ',' :: p.listed

theorem exists_tail_eq_cons (ps : List Parameter) :
    ∃ c y, (c = ',' ∨ c = ')') ∧ tail ps ++ [')'] = c :: y := by
  cases ps with
  | nil => exact ⟨')', [], .inr rfl, rfl⟩
  | cons p ps => exact ⟨',', _, .inl rfl, rfl⟩

/-- Each parameter that survives leaves its comma, and nothing else leaves one. -/
theorem exists_run_tail {ps : List Parameter} (hps : ∀ p ∈ ps, p.IsListable) (r : Option Nat)
    (kept : Text) (before : Option Char) :
    ∃ z, ((between r kept before).run (Text.squeeze false (tail ps ++ [')']))).kept =
        ')' :: (z ++ kept) ∧ z.count ',' = (Parameter.surviving (r.getD 0) ps).length := by
  induction ps generalizing r kept before with
  | nil => exact ⟨[], by cases r <;> rfl, rfl⟩
  | cons p ps ih =>
    have hp := hps p (by simp)
    have ih := ih fun q hq => hps q (by simp [hq])
    obtain ⟨c, y, hc, hy⟩ := exists_tail_eq_cons ps
    have hcb : isBlank c = false := by rcases hc with rfl | rfl <;> rfl
    have hrun : ∀ w, (between r kept before).run (Text.squeeze false (',' :: w)) =
        ((between r kept before).next ',' (Text.squeeze false w).head?).run
          (Text.squeeze false w) :=
      fun w => rfl
    have hsplit : tail (p :: ps) ++ [')'] = ',' :: (p.listed ++ c :: y) := by
      rw [← hy]
      simp [tail]
    rw [hsplit, hrun]
    rcases Nat.eq_zero_or_pos (r.getD 0) with hzero | hpos
    · -- no angle group is open, so the comma ends what was before it
      have hnext : ∀ after, (between r kept before).next ',' after =
          between none (',' :: kept) (some ',') := by
        intro after
        cases r with
        | none => rfl
        | some a =>
          obtain rfl : a = 0 := hzero
          rfl
      obtain ⟨z, before', hlisted, hcomma, -⟩ :=
        exists_run_listed hp hc false (',' :: kept) (some ',') y
      obtain ⟨z', hkept, hcount⟩ :=
        ih (p.value?.map (anglesAfter 0)) (z ++ ',' :: kept) before'
      rw [hy] at hkept
      refine ⟨z' ++ (z ++ [',']), by rw [hnext, hlisted, hkept]; simp, ?_⟩
      rw [Parameter.getD_map_anglesAfter] at hcount
      rw [hzero, Parameter.surviving, if_pos rfl, List.count_append, List.count_append, hcount,
        List.count_eq_zero.mpr hcomma]
      simp
    · -- the comma, and the parameter behind it, are part of a default value
      obtain ⟨a, rfl⟩ : ∃ a, r = some (a + 1) := by
        cases r with
        | none => simp at hpos
        | some a => exact ⟨a - 1, by simp at hpos ⊢; omega⟩
      obtain ⟨before', hskip⟩ :=
        exists_run_skipped (hp.foldlM_listed (a + 1)) hcb kept (some ',') y
      obtain ⟨z', hkept, hcount⟩ := ih (some (p.leaves (a + 1))) kept before'
      rw [hy] at hkept
      refine ⟨z', ?_, ?_⟩
      · rw [← hkept, ← hskip]
        rfl
      · rw [hcount]
        rfl

end Minimal.State

/-! ### Signatures -/

/-- A function with its parameters. -/
def signature (front : Text) (ps : List Parameter) : Text :=
  front ++ '(' :: (Text.join [','] (ps.map Parameter.listed) ++ [')'])

/-- The number of parameters that a text between brackets has, where each has a character that is
not a space. -/
def parts (t : Text) : Nat := if t.all (· == ' ') then 0 else t.count ',' + 1

/-- The minimal form of a function has as many parameters as survive. -/
theorem exists_minimalForm_signature {front : Text}
    (hfront : ∀ c ∈ front, c ∉ Minimal.State.delimiters) :
    ∃ front', ∀ ps : List Parameter, (∀ p ∈ ps, p.IsListable) →
      ∃ z, minimalForm (signature front ps) = front' ++ '(' :: (z ++ [')']) ∧
        parts z = (Parameter.surviving 0 ps).length := by
  obtain ⟨kept, hrun⟩ := exists_run_collapse hfront
  refine ⟨kept.reverse, fun ps hps => ?_⟩
  rw [minimalForm, signature, hrun]
  cases ps with
  | nil => exact ⟨[], by simp [Text.join]; rfl, rfl⟩
  | cons p ps =>
    obtain ⟨c, y, hc, hy⟩ := Minimal.State.exists_tail_eq_cons ps
    have hlist : Text.join [','] ((p :: ps).map Parameter.listed) ++ [')'] =
        p.listed ++ c :: y := by
      rw [← hy, List.map_cons, Text.join_cons, Minimal.State.tail, List.flatMap_map,
        List.append_assoc]
      rfl
    obtain ⟨z, before, hlisted, hcomma, e, he, hne⟩ :=
      Minimal.State.exists_run_listed (hps p (by simp)) hc false ('(' :: kept) (some '(') y
    have hrest : ∀ q ∈ ps, q.IsListable := fun q hq => hps q (by simp [hq])
    obtain ⟨z', hkept, hcount⟩ := Minimal.State.exists_run_tail hrest
      (p.value?.map (DefaultValue.anglesAfter 0)) (z ++ '(' :: kept) before
    rw [hy] at hkept
    have hfinal := (congrArg Minimal.State.kept hlisted).trans hkept
    refine ⟨(z' ++ z).reverse, ?_, ?_⟩
    · rw [hlist]
      refine (congrArg List.reverse hfinal).trans ?_
      simp
    · have hsome : ((z' ++ z).reverse.all (· == ' ')) = false := by
        rw [List.all_eq_false]
        exact ⟨e, by simp [he], by simpa using hne⟩
      rw [parts, hsome, List.count_reverse, List.count_append, hcount,
        List.count_eq_zero.mpr hcomma, Parameter.getD_map_anglesAfter, Parameter.surviving,
        if_pos rfl, List.length_cons]
      rfl

theorem minimalForm_signature_ne {front : Text}
    (hfront : ∀ c ∈ front, c ∉ Minimal.State.delimiters) {ps qs : List Parameter}
    (hps : ∀ p ∈ ps, p.IsListable) (hqs : ∀ q ∈ qs, q.IsListable)
    (hcount : (Parameter.surviving 0 ps).length ≠ (Parameter.surviving 0 qs).length) :
    minimalForm (signature front ps) ≠ minimalForm (signature front qs) := by
  obtain ⟨front', hform⟩ := exists_minimalForm_signature hfront
  obtain ⟨z, hz, hparts⟩ := hform ps hps
  obtain ⟨z', hz', hparts'⟩ := hform qs hqs
  intro h
  rw [hz, hz'] at h
  have heq : z = z' := by simpa using h
  exact hcount (by rw [← hparts, ← hparts', heq])

end DocTree
