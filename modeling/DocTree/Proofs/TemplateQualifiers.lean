/-
Removing qualifiers with template arguments.

A qualifier may carry template arguments, `scope<…>::`.  The scan takes for their end the first
`>::`, wherever it stands, unless a semicolon or a brace comes before it:

* `Scope.IsArguments` — a text that is taken for template arguments;
* `Scope.IsToken` — what is taken for a qualifier, and `Scope.IsToken.qualifierLength_eq` — that it
  is, wherever a name may begin;
* `Scope.Qualifies` — such a token stands somewhere in a text, and
  `Scope.removeQualifier_eq_self_iff` — the text is changed exactly then;
* `Scope.exists_removeFrom_front` — in front of a written qualifier, what is removed ends before
  it or takes the qualifier with it;
* `Scope.removeQualifier_functionText_iff` — so a function loses just its qualifier exactly when
  nothing in front of it or behind it is taken for another one.
-/
import DocTree.Proofs.FunctionText
import DocTree.Proofs.Qualifiers

namespace DocTree

/-! ### What remains without tokens -/

section Tokens

variable {len : TokenLength} {before : Option Char} {c : Char} {t w x rest : Text}

/-- What remains of a text without its tokens, with a character in front of it. -/
def removeFrom (len : TokenLength) (before : Option Char) (t : Text) : Text :=
  unmark ((markTokensFrom len 0 before t).filter fun m => !m.2)

theorem removeFrom_of_eq_zero (h : len before (c :: t) = 0) :
    removeFrom len before (c :: t) = c :: removeFrom len (some c) t := by
  rw [removeFrom, markTokensFrom_of_eq_zero h]
  rfl

theorem removeFrom_of_eq_length (hw : w ≠ []) (h : len before (w ++ t) = w.length) :
    removeFrom len before (w ++ t) = removeFrom len w.getLast? t := by
  rw [removeFrom, Scope.markTokensFrom_of_eq_length hw h]
  simp [removeFrom, unmark, List.filter_map, Function.comp_def]

theorem removeFrom_sublist (len : TokenLength) (before : Option Char) (t : Text) :
    (removeFrom len before t).Sublist t := by
  have h : (removeFrom len before t).Sublist (unmark (markTokensFrom len 0 before t)) :=
    List.filter_sublist.map Prod.fst
  rwa [unmark, map_fst_markTokensFrom] at h

/-- No token starts in `x`, where `rest` comes behind it. -/
def NoToken (len : TokenLength) (before : Option Char) (x rest : Text) : Prop :=
  ∀ u v, x = u ++ v → v ≠ [] → len (u.getLast?.or before) (v ++ rest) = 0

theorem noToken_nil : NoToken len before [] rest := by
  intro u v h hv
  exact absurd (List.append_eq_nil_iff.mp h.symm).2 hv

theorem noToken_cons : NoToken len before (c :: x) rest ↔
    len before (c :: (x ++ rest)) = 0 ∧ NoToken len (some c) x rest := by
  constructor
  · intro h
    refine ⟨h [] (c :: x) rfl (by simp), fun u v huv hv => ?_⟩
    have := h (c :: u) v (by rw [huv]; rfl) hv
    rwa [List.getLast?_cons, Option.some_or, ← Option.or_some] at this
  · rintro ⟨hfirst, hrest⟩ u v huv hv
    cases u with
    | nil =>
      obtain rfl : c :: x = v := huv
      exact hfirst
    | cons d u =>
      obtain ⟨rfl, rfl⟩ := List.cons.inj huv
      have := hrest u v rfl hv
      rwa [List.getLast?_cons, Option.some_or, ← Option.or_some]

theorem removeFrom_eq_self_iff : removeFrom len before t = t ↔ NoToken len before t [] := by
  induction t generalizing before with
  | nil => exact iff_of_true rfl noToken_nil
  | cons c t ih =>
    rw [noToken_cons, List.append_nil, ← ih]
    cases h : len before (c :: t) with
    | zero => simp [removeFrom_of_eq_zero h]
    | succ n =>
      -- the first character is lost, so the text gets shorter
      refine iff_of_false (fun heq => ?_) (by simp)
      have hlost : (removeFrom len before (c :: t)).length ≤ t.length := by
        rw [removeFrom, markTokensFrom_of_eq_succ h, List.filter_cons_of_neg (by simp), unmark,
          List.length_map]
        refine List.filter_sublist.length_le.trans (le_of_eq ?_)
        rw [← List.length_map Prod.fst, map_fst_markTokensFrom]
      rw [heq, List.length_cons] at hlost
      omega

end Tokens

namespace Scope

variable {s t u v w x y z : Text} {c : Char} {before : Option Char}

/-! ### Template arguments -/

/-- A character that no template arguments hold. -/
def isStop (c : Char) : Bool := c == ';' || c == '\x7b' || c == '\x7d'

/-- The end of the template arguments of a qualifier. -/
def argumentsEnd : Text := '>' :: scopeMark

/-- A text that is taken for the template arguments of a qualifier, which end where they can. -/
structure IsArguments (u : Text) : Prop where
  noStop : ∀ c ∈ u, isStop c = false
  noEnd : ¬ argumentsEnd <:+: u

theorem isInfix_append_cons_iff (hw : w ≠ []) (hc : c ∉ w) :
    w <:+: x ++ c :: y ↔ w <:+: x ∨ w <:+: y := by
  induction x with
  | nil =>
    have hfirst : ¬ w <+: c :: y := fun h => hc <| by
      obtain ⟨d, w, rfl⟩ := List.exists_cons_of_ne_nil hw
      simp [(List.cons_prefix_cons.mp h).1]
    rw [List.nil_append, List.infix_cons_iff, List.infix_nil]
    simp [hfirst, hw]
  | cons d x ih =>
    have hprefix : w <+: d :: (x ++ c :: y) ↔ w <+: d :: x :=
      isPrefix_append_cons_iff (z := d :: x) hc
    rw [List.cons_append, List.infix_cons_iff, List.infix_cons_iff, hprefix, ih, or_assoc]

theorem isArguments_append_cons (hc : c ∉ argumentsEnd) (hstop : isStop c = false) :
    IsArguments (u ++ c :: v) ↔ IsArguments u ∧ IsArguments v := by
  have hends : argumentsEnd <:+: u ++ c :: v ↔ argumentsEnd <:+: u ∨ argumentsEnd <:+: v :=
    isInfix_append_cons_iff (by simp [argumentsEnd]) hc
  constructor
  · rintro ⟨hall, hnone⟩
    rw [hends, not_or] at hnone
    exact ⟨⟨fun d hd => hall d (by simp [hd]), hnone.1⟩, fun d hd => hall d (by simp [hd]), hnone.2⟩
  · rintro ⟨hu, hv⟩
    refine ⟨fun d hd => ?_, fun h => (hends.mp h).elim hu.noEnd hv.noEnd⟩
    rcases List.mem_append.mp hd with hd | hd
    · exact hu.noStop d hd
    · rcases List.mem_cons.mp hd with rfl | hd
      · exact hstop
      · exact hv.noStop d hd

theorem isArguments_of_isWord (h : IsWord u) : IsArguments u := by
  have hstop : ∀ c, isStop c = true → isWordChar c = false := by
    intro c hc
    simp only [isStop, Bool.or_eq_true, beq_iff_eq] at hc
    rcases hc with (rfl | rfl) | rfl <;> decide
  refine ⟨fun c hc => ?_, fun hend => ?_⟩
  · rw [Bool.eq_false_iff]
    exact fun htrue => h.not_mem (hstop c htrue) hc
  · exact h.not_mem isWordChar_colon (hend.subset (by simp [argumentsEnd, scopeMark]))

theorem eq_nil_of_isPrefix (hu : ¬ argumentsEnd <:+: u)
    (h : argumentsEnd <+: u ++ (argumentsEnd ++ z)) : u = [] := by
  rcases u with _ | ⟨a, _ | ⟨b, _ | ⟨c, u⟩⟩⟩
  · rfl
  · simp [argumentsEnd, scopeMark] at h
  · simp [argumentsEnd, scopeMark] at h
  · have hpre : argumentsEnd <+: a :: b :: c :: u := by
      simp [argumentsEnd, scopeMark] at h ⊢
      exact h
    exact absurd hpre.isInfix hu

/-- Template arguments run to the first `>::`. -/
theorem argumentsLength_eq_some {n : Nat} : argumentsLength t = some n ↔
    ∃ u z, IsArguments u ∧ t = u ++ (argumentsEnd ++ z) ∧ n = u.length + 3 := by
  -- where no end stands, the first character is one of the arguments
  have hlater : ∀ {c : Char} {rest u z : Text},
      (∀ more, c = '>' → rest = ':' :: ':' :: more → False) →
      c :: rest = u ++ (argumentsEnd ++ z) →
      ∃ u', u = c :: u' ∧ rest = u' ++ (argumentsEnd ++ z) := by
    intro c rest u z hend heq
    cases u with
    | nil =>
      obtain ⟨rfl, rfl⟩ := List.cons.inj heq
      exact (hend z rfl rfl).elim
    | cons d u =>
      obtain ⟨rfl, rfl⟩ := List.cons.inj heq
      exact ⟨u, rfl, rfl⟩
  fun_induction argumentsLength t generalizing n with
  | case1 rest =>
    constructor
    · intro h
      refine ⟨[], rest, ⟨by simp, by simp [argumentsEnd]⟩, rfl, (Option.some.inj h).symm⟩
    · rintro ⟨u, z, hu, heq, rfl⟩
      obtain rfl := eq_nil_of_isPrefix hu.noEnd (z := z) (heq ▸ ⟨rest, rfl⟩)
      rfl
  | case2 c rest hend hstop =>
    refine iff_of_false (by simp) ?_
    rintro ⟨u, z, hu, heq, -⟩
    obtain ⟨u, rfl, -⟩ := hlater hend heq
    exact absurd ((hu.noStop c (by simp)).symm.trans hstop) (by simp)
  | case3 c rest hend hstop ih =>
    rw [Option.map_eq_some_iff]
    constructor
    · rintro ⟨m, hm, rfl⟩
      obtain ⟨u, z, hu, rfl, rfl⟩ := ih.mp hm
      refine ⟨c :: u, z, ⟨?_, ?_⟩, rfl, rfl⟩
      · rw [List.forall_mem_cons]
        exact ⟨Bool.eq_false_iff.mpr hstop, hu.noStop⟩
      · rw [List.infix_cons_iff]
        rintro (⟨more, hmore⟩ | hinfix)
        · obtain ⟨rfl, rfl⟩ := List.cons.inj hmore
          exact hend _ rfl rfl
        · exact hu.noEnd hinfix
    · rintro ⟨u, z, hu, heq, rfl⟩
      obtain ⟨u, rfl, rfl⟩ := hlater hend heq
      refine ⟨u.length + 3, ih.mpr ⟨u, z, ⟨?_, ?_⟩, rfl, rfl⟩, by simp⟩
      · exact fun d hd => hu.noStop d (by simp [hd])
      · exact fun h => hu.noEnd (h.trans (List.suffix_cons c u).isInfix)
  | case4 =>
    refine iff_of_false (by simp) ?_
    rintro ⟨u, z, -, heq, -⟩
    simp [argumentsEnd] at heq

theorem IsArguments.eq_of_isPrefix (hu : IsArguments u) (hv : IsArguments v)
    (hut : u ++ argumentsEnd <+: t) (hvt : v ++ argumentsEnd <+: t) : u = v := by
  have hlength : ∀ {u : Text}, IsArguments u → u ++ argumentsEnd <+: t →
      argumentsLength t = some (u.length + 3) := by
    rintro u hu ⟨z, rfl⟩
    exact argumentsLength_eq_some.mpr ⟨u, z, hu, List.append_assoc _ _ _, rfl⟩
  have heq : u.length = v.length := by
    have := Option.some.inj ((hlength hu hut).symm.trans (hlength hv hvt))
    omega
  have hprefix := List.prefix_of_prefix_length_le ((List.prefix_append u _).trans hut)
    ((List.prefix_append v _).trans hvt) (le_of_eq heq)
  exact hprefix.eq_of_length heq

/-! ### Tokens -/

/-- The scope with template arguments. -/
def specialized (s u : Text) : Text := s ++ '<' :: (u ++ ['>'])

theorem specialized_append_scopeMark (s u : Text) :
    specialized s u ++ scopeMark = (s ++ '<' :: u) ++ argumentsEnd := by
  simp [specialized, argumentsEnd]

/-- The scope, with or without template arguments. -/
def IsInstance (s i : Text) : Prop := i = s ∨ ∃ u, IsArguments u ∧ i = specialized s u

/-- What is removed as a qualifier that names the scope. -/
def IsToken (s w : Text) : Prop := ∃ i, IsInstance s i ∧ IsQualifier i w

theorem plainQualifierLength_eq_some {n : Nat} : plainQualifierLength s t = some n ↔
    ∃ i, IsInstance s i ∧ i ++ scopeMark <+: t ∧ n = i.length + 2 := by
  unfold plainQualifierLength
  constructor
  · intro h
    split at h
    · rename_i rest hrest
      obtain rfl := List.isPrefixOf?_eq_some_iff_append_eq.mp hrest
      exact ⟨s, .inl rfl, ⟨rest, by simp [scopeMark]⟩, (Option.some.inj h).symm⟩
    · rename_i rest hrest
      obtain rfl := List.isPrefixOf?_eq_some_iff_append_eq.mp hrest
      obtain ⟨m, hm, rfl⟩ := Option.map_eq_some_iff.mp h
      obtain ⟨u, z, hu, rfl, rfl⟩ := argumentsLength_eq_some.mp hm
      refine ⟨_, .inr ⟨u, hu, rfl⟩, ⟨z, by simp [specialized_append_scopeMark]⟩, ?_⟩
      simp [specialized]
      omega
    · exact absurd h (by simp)
  · rintro ⟨i, rfl | ⟨u, hu, rfl⟩, ⟨z, rfl⟩, rfl⟩
    · have hrest : List.isPrefixOf? i (i ++ scopeMark ++ z) = some (':' :: ':' :: z) :=
        List.isPrefixOf?_eq_some_iff_append_eq.mpr (by simp [scopeMark])
      rw [hrest]
      rfl
    · have hrest : List.isPrefixOf? s (specialized s u ++ scopeMark ++ z) =
          some ('<' :: (u ++ (argumentsEnd ++ z))) :=
        List.isPrefixOf?_eq_some_iff_append_eq.mpr (by simp [specialized_append_scopeMark])
      have hlength : argumentsLength (u ++ (argumentsEnd ++ z)) = some (u.length + 3) :=
        argumentsLength_eq_some.mpr ⟨u, z, hu, rfl, rfl⟩
      rw [hrest]
      simp [hlength, specialized]
      omega

theorem IsInstance.exists_cons {i : Text} (hi : IsInstance s i) (hs : IsWord s) :
    ∃ a i', i = a :: i' ∧ isWordChar a = true := by
  obtain ⟨a, s, rfl⟩ := List.exists_cons_of_ne_nil hs.1
  have ha := hs.2 a (by simp)
  rcases hi with rfl | ⟨u, -, rfl⟩
  · exact ⟨a, s, rfl, ha⟩
  · exact ⟨a, _, rfl, ha⟩

theorem IsToken.getLast? (h : IsToken s w) : w.getLast? = some ':' := by
  obtain ⟨i, -, hw⟩ := h
  exact hw.getLast?

theorem IsToken.ne_nil (h : IsToken s w) : w ≠ [] := by
  rintro rfl
  exact absurd h.getLast? (by simp)

/-- Where a name may begin, a token is taken as a whole. -/
theorem IsToken.qualifierLength_eq (h : IsToken s w) (hs : IsWord s)
    (hbefore : before.any isQualifierChar = false) (hpre : w <+: t) :
    qualifierLength s before t = w.length := by
  have hno : ¬ before.any isQualifierChar = true := by simp [hbefore]
  unfold qualifierLength
  refine (if_neg hno).trans ?_
  obtain ⟨i, hi, rfl | rfl⟩ := h
  · have hplain : plainQualifierLength s t = some (i.length + 2) :=
      plainQualifierLength_eq_some.mpr ⟨i, hi, hpre, rfl⟩
    -- the scope is a word, so the text does not begin with a mark
    obtain ⟨a, i', rfl, ha⟩ := hi.exists_cons hs
    have hcolon : a ≠ ':' := by
      rintro rfl
      exact absurd ha (by decide)
    obtain ⟨z, rfl⟩ := hpre
    rw [hplain]
    split
    · rename_i rest heq
      exact absurd (List.cons.inj heq).1 hcolon
    · simp [scopeMark]
  · obtain ⟨z, rfl⟩ := hpre
    have hplain : plainQualifierLength s (i ++ scopeMark ++ z) = some (i.length + 2) :=
      plainQualifierLength_eq_some.mpr ⟨i, hi, List.prefix_append _ _, rfl⟩
    have htext : scopeMark ++ (i ++ scopeMark) ++ z = ':' :: ':' :: (i ++ scopeMark ++ z) := by
      simp [scopeMark]
    rw [htext]
    simp only [hplain]
    simp [scopeMark]

/-- Nothing but tokens is taken. -/
theorem qualifierLength_eq_zero_or (s : Text) (before : Option Char) (t : Text) :
    qualifierLength s before t = 0 ∨
      before.any isQualifierChar = false ∧
        ∃ w, IsToken s w ∧ w <+: t ∧ qualifierLength s before t = w.length := by
  unfold qualifierLength
  split
  · exact .inl rfl
  · rename_i hbefore
    rw [Bool.not_eq_true] at hbefore
    have hplain : (plainQualifierLength s t).getD 0 = 0 ∨ before.any isQualifierChar = false ∧
        ∃ w, IsToken s w ∧ w <+: t ∧ (plainQualifierLength s t).getD 0 = w.length := by
      cases hn : plainQualifierLength s t with
      | none => exact .inl rfl
      | some n =>
        obtain ⟨i, hi, hpre, rfl⟩ := plainQualifierLength_eq_some.mp hn
        exact .inr ⟨hbefore, _, ⟨i, hi, .inl rfl⟩, hpre, by simp [scopeMark]⟩
    split
    · rename_i rest
      cases hrest : plainQualifierLength s rest with
      | none => exact hplain
      | some n =>
        obtain ⟨i, hi, ⟨z, rfl⟩, rfl⟩ := plainQualifierLength_eq_some.mp hrest
        exact .inr ⟨hbefore, _, ⟨i, hi, .inr rfl⟩, ⟨z, rfl⟩, by simp [scopeMark]⟩
    · exact hplain

theorem noToken_iff (hs : IsWord s) : NoToken (qualifierLength s) before x y ↔
    ∀ u v w, x = u ++ v → v ≠ [] → (u.getLast?.or before).any isQualifierChar = false →
      IsToken s w → ¬ w <+: v ++ y := by
  constructor
  · intro h u v w huv hv hbefore hw hpre
    have hzero := (hw.qualifierLength_eq hs hbefore hpre).symm.trans (h u v huv hv)
    exact hw.ne_nil (List.length_eq_zero_iff.mp hzero)
  · intro h u v huv hv
    rcases qualifierLength_eq_zero_or s (u.getLast?.or before) (v ++ y) with
      hzero | ⟨hbefore, w, hw, hpre, -⟩
    · exact hzero
    · exact absurd hpre (h u v w huv hv hbefore hw)

/-- A token stands somewhere in the text, where a name may begin. -/
def Qualifies (s t : Text) : Prop :=
  ∃ x w y, t = x ++ (w ++ y) ∧ x.getLast?.any isQualifierChar = false ∧ IsToken s w

/-- A text stays as it is exactly when nothing in it is taken for a qualifier. -/
theorem removeQualifier_eq_self_iff (hs : IsWord s) :
    removeQualifier s t = t ↔ ¬ Qualifies s t := by
  refine removeFrom_eq_self_iff.trans ((noToken_iff hs).trans ?_)
  constructor
  · rintro hno ⟨x, w, y, rfl, hx, hw⟩
    refine hno x (w ++ y) w rfl (by simp [hw.ne_nil]) (by simpa using hx) hw ?_
    rw [List.append_nil]
    exact List.prefix_append _ _
  · rintro hno u v w rfl - hu hw hpre
    rw [List.append_nil] at hpre
    obtain ⟨y, rfl⟩ := hpre
    exact hno ⟨u, w, y, rfl, by simpa using hu, hw⟩

/-! ### Tokens with template arguments -/

/-- The scope at the start of a token. -/
def IsHead (s h : Text) : Prop := h = s ∨ h = scopeMark ++ s

theorem IsHead.isQualifierChar {h : Text} (hh : IsHead s h) (hs : IsWord s) :
    ∀ c ∈ h, isQualifierChar c = true := by
  have hscope : ∀ c ∈ s, Scope.isQualifierChar c = true := fun c hc => by
    simp [Scope.isQualifierChar, hs.2 c hc]
  rcases hh with rfl | rfl
  · exact hscope
  · intro c hc
    rcases List.mem_append.mp hc with hc | hc
    · rw [scopeMark] at hc
      simp at hc
      simp [hc, Scope.isQualifierChar]
    · exact hscope c hc

theorem IsHead.blank_not_mem {h : Text} (hh : IsHead s h) (hs : IsWord s) : ' ' ∉ h ++ ['<'] := by
  intro hmem
  rcases List.mem_append.mp hmem with hmem | hmem
  · exact absurd (hh.isQualifierChar hs _ hmem) (by decide)
  · simp at hmem

theorem IsHead.isToken {h : Text} (hh : IsHead s h) (hu : IsArguments u) :
    IsToken s (h ++ '<' :: (u ++ argumentsEnd)) := by
  refine ⟨_, .inr ⟨u, hu, rfl⟩, ?_⟩
  rcases hh with rfl | rfl
  · exact .inl (by simp [specialized_append_scopeMark])
  · exact .inr (by simp [specialized_append_scopeMark])

/-- A token with another character than those of names has template arguments. -/
theorem IsToken.exists_arguments (hw : IsToken s w) (hs : IsWord s) (hc : c ∈ w)
    (hchar : isQualifierChar c = false) :
    ∃ h u, IsHead s h ∧ IsArguments u ∧ w = h ++ '<' :: (u ++ argumentsEnd) := by
  obtain ⟨i, rfl | ⟨u, hu, rfl⟩, hw⟩ := hw
  · exact absurd (hw.isQualifierChar hs c hc) (by simp [hchar])
  · rcases hw with rfl | rfl
    · exact ⟨s, u, .inl rfl, hu, by simp [specialized_append_scopeMark]⟩
    · exact ⟨scopeMark ++ s, u, .inr rfl, hu, by simp [specialized_append_scopeMark]⟩

theorem isToken_append_argumentsEnd (hs : IsWord s) : IsToken s (v ++ argumentsEnd) ↔
    ∃ h u, IsHead s h ∧ IsArguments u ∧ v = h ++ '<' :: u := by
  constructor
  · intro hw
    obtain ⟨h, u, hh, hu, heq⟩ := hw.exists_arguments hs (c := '>') (by simp [argumentsEnd]) rfl
    have hcut : v ++ argumentsEnd = (h ++ '<' :: u) ++ argumentsEnd := by simpa using heq
    exact ⟨h, u, hh, hu, List.append_cancel_right hcut⟩
  · rintro ⟨h, u, hh, hu, rfl⟩
    simpa using hh.isToken hu

/-! ### Cutting texts apart -/

theorem exists_of_append_eq_append_cons (hc : c ∉ x) (h : x ++ y = u ++ c :: v) :
    ∃ r, u = x ++ r ∧ y = r ++ c :: v := by
  rcases List.append_eq_append_iff.mp h with ⟨r, rfl, rfl⟩ | ⟨r, rfl, hr⟩
  · exact ⟨r, rfl, rfl⟩
  · cases r with
    | nil => exact ⟨[], by simp, hr.symm⟩
    | cons d r =>
      obtain ⟨rfl, -⟩ := List.cons.inj hr
      simp at hc

theorem exists_of_append_cons_eq_append (hc : c ∉ y) (h : x ++ y = u ++ c :: v) :
    ∃ r, x = u ++ c :: r ∧ v = r ++ y := by
  rcases List.append_eq_append_iff.mp h with ⟨r, rfl, rfl⟩ | ⟨r, rfl, hr⟩
  · simp at hc
  · cases r with
    | nil =>
      rw [List.nil_append] at hr
      exact absurd (hr ▸ List.mem_cons_self ..) hc
    | cons d r =>
      obtain ⟨rfl, rfl⟩ := List.cons.inj hr
      exact ⟨r, rfl, rfl⟩

theorem exists_of_concat_eq_append (h : x ++ [c] = u ++ v) (hv : v ≠ []) :
    ∃ r, v = r ++ [c] ∧ x = u ++ r := by
  obtain ⟨r, d, rfl⟩ := List.eq_nil_or_concat' v |>.resolve_left hv
  rw [← List.append_assoc] at h
  obtain ⟨rfl, hd⟩ := List.append_inj' h rfl
  exact ⟨r, by rw [hd], rfl⟩

theorem IsToken.isPrefix_of_concat (hw : IsToken s w) (hc : c ≠ ':') (h : w <+: x ++ [c]) :
    w <+: x := by
  refine (List.prefix_concat_iff.mp h).resolve_left ?_
  rintro rfl
  have := hw.getLast?
  rw [List.getLast?_concat] at this
  exact hc (Option.some.inj this)

/-! ### In front of a written qualifier -/

section Written

variable {a : Text}

/-- A qualifier with template arguments. -/
def written (s a : Text) : Text := specialized s a ++ scopeMark

theorem written_eq (s a : Text) : written s a = (s ++ '<' :: a) ++ argumentsEnd :=
  specialized_append_scopeMark s a

theorem isToken_written (s : Text) (ha : IsArguments a) : IsToken s (written s a) :=
  ⟨_, .inr ⟨a, ha, rfl⟩, .inl rfl⟩

theorem isArguments_open (hs : IsWord s) (ha : IsArguments a) : IsArguments (s ++ '<' :: a) :=
  (isArguments_append_cons (by decide) rfl).mpr ⟨isArguments_of_isWord hs, ha⟩

/-- Whether a token goes on through a blank to the end of the written qualifier depends only on
what stands in front. -/
theorem isToken_append_written (hs : IsWord s) (ha : IsArguments a) :
    IsToken s (v ++ ' ' :: written s a) ↔ IsToken s (v ++ argumentsEnd) := by
  have hopen := isArguments_open hs ha
  have hsplit : v ++ ' ' :: written s a = (v ++ ' ' :: (s ++ '<' :: a)) ++ argumentsEnd := by
    simp [written_eq]
  rw [hsplit, isToken_append_argumentsEnd hs, isToken_append_argumentsEnd hs]
  constructor
  · rintro ⟨h, u, hh, hu, heq⟩
    have heq' : (h ++ ['<']) ++ u = v ++ ' ' :: (s ++ '<' :: a) := by simpa using heq.symm
    obtain ⟨r, rfl, rfl⟩ := exists_of_append_eq_append_cons (hh.blank_not_mem hs) heq'
    exact ⟨h, r, hh, ((isArguments_append_cons (by decide) rfl).mp hu).1, by simp⟩
  · rintro ⟨h, u, hh, hu, rfl⟩
    refine ⟨h, u ++ ' ' :: (s ++ '<' :: a), hh, ?_, by simp⟩
    exact (isArguments_append_cons (by decide) rfl).mpr ⟨hu, hopen⟩

/-- A token that goes on over a blank has it among its template arguments. -/
theorem IsToken.isPrefix_or_arguments (hw : IsToken s w) (hs : IsWord s)
    (hpre : w <+: x ++ ' ' :: t) :
    w <+: x ∨ ∃ h u v, IsHead s h ∧ IsArguments u ∧ IsArguments v ∧ x = h ++ '<' :: u ∧
      w = x ++ ' ' :: (v ++ argumentsEnd) ∧ v ++ argumentsEnd <+: t := by
  have hsplit : x ++ ' ' :: t = (x ++ [' ']) ++ t := by simp
  rw [hsplit] at hpre
  rcases List.prefix_or_prefix_of_prefix hpre (List.prefix_append _ _) with hshort | ⟨r, rfl⟩
  · exact .inl (hw.isPrefix_of_concat (by decide) hshort)
  · right
    obtain ⟨h, u, hh, hu, heq⟩ := hw.exists_arguments hs (c := ' ') (by simp) (by decide)
    rw [List.prefix_append_right_inj] at hpre
    have heq' : (h ++ ['<']) ++ (u ++ argumentsEnd) = x ++ ' ' :: r := by simpa using heq.symm
    obtain ⟨front, rfl, hrest⟩ := exists_of_append_eq_append_cons (hh.blank_not_mem hs) heq'
    obtain ⟨back, rfl, rfl⟩ := exists_of_append_cons_eq_append (by decide) hrest
    obtain ⟨hfront, hback⟩ := (isArguments_append_cons (by decide) rfl).mp hu
    exact ⟨h, front, back, hh, hfront, hback, by simp, by simp, hpre⟩

/-- A token in front of a written qualifier ends before the blank, or it is all there is up to the
end of the qualifier. -/
theorem IsToken.isPrefix_or_eq (hw : IsToken s w) (hs : IsWord s) (ha : IsArguments a)
    (hpre : w <+: v ++ ' ' :: (written s a ++ y)) : w <+: v ∨ w = v ++ ' ' :: written s a := by
  rcases hw.isPrefix_or_arguments hs hpre with hshort | ⟨h, u, u', hh, hu, hu', rfl, rfl, hend⟩
  · exact .inl hshort
  · right
    -- the arguments behind the blank end where the qualifier does
    have hwritten : (s ++ '<' :: a) ++ argumentsEnd <+: written s a ++ y := by
      rw [← written_eq]
      exact List.prefix_append _ _
    rw [hu'.eq_of_isPrefix (isArguments_open hs ha) hend hwritten, written_eq]

theorem removeFrom_of_isToken (hw : IsToken s w) (hs : IsWord s)
    (hbefore : before.any isQualifierChar = false) (t : Text) :
    removeFrom (qualifierLength s) before (w ++ t) =
      removeFrom (qualifierLength s) (some ':') t := by
  rw [removeFrom_of_eq_length hw.ne_nil
    (hw.qualifierLength_eq hs hbefore (List.prefix_append _ _)), hw.getLast?]

/-- A text that ends in a blank still does so without its first character, unless the blank is all
of it. -/
theorem exists_concat_blank_eq_cons (r : Text) : ∃ c x, r ++ [' '] = c :: x ∧
    (x = [] ∧ (some c).any isQualifierChar = false ∨ ∃ r, x = r ++ [' ']) := by
  cases r with
  | nil => exact ⟨' ', [], rfl, .inl ⟨rfl, rfl⟩⟩
  | cons c r => exact ⟨c, r ++ [' '], rfl, .inr ⟨r, rfl⟩⟩

/-- In front of a written qualifier only tokens are lost, and the qualifier is lost in any case. -/
theorem exists_removeFrom_front (before : Option Char) (hs : IsWord s) (ha : IsArguments a)
    (hx : x = [] ∧ before.any isQualifierChar = false ∨ ∃ r, x = r ++ [' ']) (y : Text) :
    ∃ z, z.Sublist x ∧
      removeFrom (qualifierLength s) before (x ++ (written s a ++ y)) =
        z ++ removeFrom (qualifierLength s) (some ':') y ∧
      (z = x ↔ NoToken (qualifierLength s) before x (written s a ++ y)) := by
  -- the induction is on the length, as a token may take several characters at once
  induction hn : x.length using Nat.strong_induction_on generalizing x before with
  | _ n ih =>
    rcases hx with ⟨rfl, hbefore⟩ | ⟨r, rfl⟩
    · refine ⟨[], List.Sublist.refl [], ?_, iff_of_true rfl noToken_nil⟩
      exact removeFrom_of_isToken (isToken_written s ha) hs hbefore y
    · rcases qualifierLength_eq_zero_or s before (r ++ [' '] ++ (written s a ++ y)) with
        hzero | ⟨hbefore, w, hw, hpre, -⟩
      · obtain ⟨c, x, hcx, hx⟩ := exists_concat_blank_eq_cons r
        rw [hcx] at hn hzero ⊢
        rw [List.cons_append] at hzero
        obtain ⟨z, hz, hremove, hiff⟩ := ih x.length (by simp [← hn]) (some c) hx rfl
        refine ⟨c :: z, hz.cons_cons c, ?_, ?_⟩
        · rw [List.cons_append, removeFrom_of_eq_zero hzero, hremove, List.cons_append]
        · rw [noToken_cons, ← hiff, List.cons_inj_right]
          exact ⟨fun h => ⟨hzero, h⟩, fun h => h.2⟩
      · have hsome : ¬ NoToken (qualifierLength s) before (r ++ [' ']) (written s a ++ y) :=
          fun h => (noToken_iff hs).mp h [] _ w rfl (by simp) hbefore hw hpre
        rw [List.append_assoc, List.singleton_append] at hpre
        rcases hw.isPrefix_or_eq hs ha hpre with ⟨r, rfl⟩ | rfl
        · have hpos : 0 < w.length := List.length_pos_iff.mpr hw.ne_nil
          have hlt : (r ++ [' ']).length < n := by
            simp only [← hn, List.length_append]
            omega
          obtain ⟨z, hz, hremove, -⟩ := ih _ hlt (some ':') (.inr ⟨r, rfl⟩) rfl
          refine ⟨z, ?_, ?_, iff_of_false (fun h => ?_) hsome⟩
          · rw [List.append_assoc]
            exact hz.trans (List.sublist_append_right w _)
          · rw [List.append_assoc, List.append_assoc, removeFrom_of_isToken hw hs hbefore,
              ← List.append_assoc, hremove]
          · have := hz.length_le
            rw [h] at this
            simp only [List.length_append] at this
            omega
        · refine ⟨[], List.nil_sublist _, ?_, iff_of_false (by simp) hsome⟩
          have htext : r ++ [' '] ++ (written s a ++ y) = (r ++ ' ' :: written s a) ++ y := by simp
          rw [htext, removeFrom_of_isToken hw hs hbefore, List.nil_append]

theorem IsToken.exists_isWordChar (h : IsToken s w) (hs : IsWord s) :
    ∃ c ∈ w, isWordChar c = true := by
  obtain ⟨i, hi, hw⟩ := h
  obtain ⟨c, i', rfl, hc⟩ := hi.exists_cons hs
  rcases hw with rfl | rfl
  · exact ⟨c, by simp, hc⟩
  · exact ⟨c, by simp, hc⟩

theorem IsToken.scopeMark_isSuffix (h : IsToken s w) : scopeMark <:+ w := by
  obtain ⟨i, -, rfl | rfl⟩ := h
  · exact List.suffix_append _ _
  · exact (List.suffix_append _ _).trans (List.suffix_append _ _)

/-- No token starts in front of a written qualifier exactly when none would if the text went on
with the end of its template arguments. -/
theorem noToken_front_iff {r : Text} (hs : IsWord s) (ha : IsArguments a) :
    NoToken (qualifierLength s) none (r ++ [' ']) (written s a ++ y) ↔
      ¬ Qualifies s (r ++ argumentsEnd) := by
  rw [noToken_iff hs]
  constructor
  · rintro hno ⟨x, w, z, heq, hx, hw⟩
    -- a token that starts behind `x`, seen from the written qualifier
    have hfound : ∀ {m w : Text}, r = x ++ m → IsToken s w →
        ¬ w <+: m ++ ' ' :: (written s a ++ y) := by
      rintro m w rfl hw hpre
      refine hno x (m ++ [' ']) w (List.append_assoc _ _ _) (by simp) (by simpa using hx) hw ?_
      simpa using hpre
    rcases List.append_eq_append_iff.mp heq with ⟨m, -, hm⟩ | ⟨m, hr, hm⟩
    · obtain ⟨c, hc, hword⟩ := hw.exists_isWordChar hs
      have hmem : c ∈ argumentsEnd := by
        rw [hm]
        simp [hc]
      have hnone : ∀ c ∈ argumentsEnd, isWordChar c = false :=
        List.forall_iff_forall_mem.mp (by decide)
      exact absurd hword (by simp [hnone c hmem])
    · rcases List.append_eq_append_iff.mp hm with ⟨k, rfl, hk⟩ | ⟨k, rfl, hk⟩
      · exact hfound hr hw (by rw [List.append_assoc]; exact List.prefix_append _ _)
      · -- the token ends in a mark, so it takes nothing of the end or all of it
        obtain ⟨i, hi⟩ := hw.scopeMark_isSuffix
        rcases k with _ | ⟨_, _ | ⟨_, _ | ⟨_, k⟩⟩⟩
        · exact hfound hr hw (by simp)
        · obtain ⟨rfl, -⟩ := List.cons.inj hk
          exact absurd (congrArg List.getLast? hi) (by simp [scopeMark])
        · obtain ⟨rfl, -⟩ := List.cons.inj hk
          exact absurd (List.append_inj' hi rfl).2 (by simp [scopeMark])
        · obtain rfl : z = [] := by
            have hlength := congrArg List.length hk
            simp only [argumentsEnd, scopeMark, List.length_append, List.length_cons,
              List.length_nil] at hlength
            exact List.length_eq_zero_iff.mp (by omega)
          rw [List.append_nil] at hk
          rw [← hk] at hw
          refine hfound hr ((isToken_append_written hs ha).mpr hw) ⟨y, ?_⟩
          simp
  · intro hno u v w huv hv hu hw hpre
    obtain ⟨m, rfl, rfl⟩ := exists_of_concat_eq_append huv hv
    rw [List.append_assoc, List.singleton_append] at hpre
    rw [Option.or_none] at hu
    rcases hw.isPrefix_or_eq hs ha hpre with ⟨k, rfl⟩ | rfl
    · exact hno ⟨u, w, k ++ argumentsEnd, by simp, hu, hw⟩
    · refine hno ⟨u, m ++ argumentsEnd, [], by simp, hu, ?_⟩
      exact (isToken_append_written hs ha).mp hw

/-- Behind a written qualifier, tokens stand among the parameters only. -/
theorem noToken_back_iff {f p : Text} (hs : IsWord s) (hf : IsWord f) :
    NoToken (qualifierLength s) (some ':') (f ++ '(' :: (p ++ [')'])) [] ↔ ¬ Qualifies s p := by
  rw [noToken_iff hs]
  constructor
  · rintro hno ⟨x, w, z, rfl, hx, hw⟩
    refine hno (f ++ '(' :: x) (w ++ (z ++ [')'])) w (by simp) (by simp) ?_ hw ?_
    · cases hlast : x.getLast? with
      | none =>
        rw [List.getLast?_eq_none_iff] at hlast
        simp [hlast]
        decide
      | some c =>
        rw [hlast] at hx
        simpa [List.getLast?_append, List.getLast?_cons, hlast] using hx
    · rw [List.append_nil]
      exact List.prefix_append _ _
  · intro hno u v w huv hv hu hw hpre
    rw [List.append_nil] at hpre
    -- a token starts behind the opening bracket
    have hname : ¬ u <+: f := by
      intro hpre
      have hlast : (u.getLast?.or (some ':')).any isQualifierChar = true := by
        cases hlast : u.getLast? with
        | none => rfl
        | some c => simp [isQualifierChar, hf.2 c (hpre.subset (List.mem_of_getLast? hlast))]
      rw [hlast] at hu
      exact absurd hu (by simp)
    obtain ⟨x, rfl, hx⟩ : ∃ x, u = f ++ '(' :: x ∧ p ++ [')'] = x ++ v := by
      rcases List.append_eq_append_iff.mp huv with ⟨m, rfl, hm⟩ | ⟨m, rfl, -⟩
      · cases m with
        | nil => exact absurd (by simp) hname
        | cons c x =>
          obtain ⟨rfl, hx⟩ := List.cons.inj hm
          exact ⟨x, rfl, hx⟩
      · exact absurd (List.prefix_append u m) hname
    obtain ⟨r, rfl, rfl⟩ := exists_of_concat_eq_append hx hv
    obtain ⟨z, rfl⟩ := hw.isPrefix_of_concat (by decide) hpre
    refine hno ⟨x, w, z, rfl, ?_, hw⟩
    cases hlast : x.getLast? with
    | none => rfl
    | some c => simpa [List.getLast?_append, List.getLast?_cons, hlast] using hu

/-- **A function loses just its qualifier** exactly when nothing in its result type, as far as the
end of the template arguments, and nothing among its parameters is taken for another one. -/
theorem removeQualifier_functionText_iff {f r p : Text} (hs : IsWord s) (hf : IsWord f)
    (ha : IsArguments a) :
    removeQualifier s (functionText r (written s a ++ f) p) = functionText r f p ↔
      ¬ Qualifies s (r ++ argumentsEnd) ∧ ¬ Qualifies s p := by
  set y := f ++ '(' :: (p ++ [')']) with hy
  have htext : functionText r (written s a ++ f) p = (r ++ [' ']) ++ (written s a ++ y) := by
    simp [functionText, hy]
  have hshort : functionText r f p = (r ++ [' ']) ++ y := by simp [functionText, hy]
  obtain ⟨z, hz, hremove, hiff⟩ :=
    exists_removeFrom_front none hs ha (.inr ⟨r, rfl⟩) y
  have hback := removeFrom_sublist (qualifierLength s) (some ':') y
  have hremove' : removeQualifier s (functionText r (written s a ++ f) p) =
      z ++ removeFrom (qualifierLength s) (some ':') y := by
    rw [htext]
    exact hremove
  rw [hremove', hshort, ← noToken_front_iff hs ha (y := y), ← hiff, ← noToken_back_iff hs hf,
    ← removeFrom_eq_self_iff]
  constructor
  · intro heq
    have hlength := congrArg List.length heq
    rw [List.length_append, List.length_append] at hlength
    have hle := hz.length_le
    have hle' := hback.length_le
    exact ⟨hz.eq_of_length (by omega), hback.eq_of_length (by omega)⟩
  · rintro ⟨hz, hy⟩
    rw [hz, hy]

/-! ### Qualified names -/

theorem removeQualifier_written_append (hs : IsWord s) (ha : IsArguments a) (y : Text) :
    removeQualifier s (written s a ++ y) = removeFrom (qualifierLength s) (some ':') y :=
  removeFrom_of_isToken (isToken_written s ha) hs rfl y

/-- A qualified name loses its qualifier. -/
theorem removeQualifier_written {f : Text} (hs : IsWord s) (hf : IsWord f) (ha : IsArguments a) :
    removeQualifier s (written s a ++ f) = f := by
  have hword : ∀ d ∈ f, isQualifierChar d = true := fun d hd => by
    simp [isQualifierChar, hf.2 d hd]
  rw [removeQualifier_written_append hs ha, removeFrom, markTokensFrom_qualifierLength rfl hword]
  simp [unmark, List.filter_map, Function.comp_def]

/-- Behind a character of a name, everything stays up to the first other character. -/
theorem exists_mem_removeFrom {d : Char} (hc : isQualifierChar c = true) (hd : d ∈ t)
    (hchar : isQualifierChar d = false) :
    ∃ e ∈ removeFrom (qualifierLength s) (some c) t, isQualifierChar e = false := by
  induction t generalizing c with
  | nil => simp at hd
  | cons e t ih =>
    have hzero : qualifierLength s (some c) (e :: t) = 0 := by
      unfold qualifierLength
      exact if_pos hc
    rw [removeFrom_of_eq_zero hzero]
    cases he : isQualifierChar e with
    | false => exact ⟨e, by simp, he⟩
    | true =>
      have hrest : d ∈ t := by
        rcases List.mem_cons.mp hd with rfl | hd
        · simp [he] at hchar
        · exact hd
      obtain ⟨e', he', hchar'⟩ := ih he hrest
      exact ⟨e', by simp [he'], hchar'⟩

theorem exists_isArguments (ha : ∀ c ∈ a, isStop c = false) (hend : argumentsEnd <:+: a) :
    ∃ u b, IsArguments u ∧ a = u ++ (argumentsEnd ++ b) := by
  induction a with
  | nil => exact absurd (List.infix_nil.mp hend) (by simp [argumentsEnd])
  | cons c a ih =>
    by_cases hfirst : argumentsEnd <+: c :: a
    · obtain ⟨b, hb⟩ := hfirst
      exact ⟨[], b, ⟨by simp, by simp [argumentsEnd]⟩, hb.symm⟩
    · obtain ⟨u, b, hu, rfl⟩ := ih (fun d hd => ha d (by simp [hd]))
        ((List.infix_cons_iff.mp hend).resolve_left hfirst)
      refine ⟨c :: u, b, ⟨?_, ?_⟩, rfl⟩
      · exact List.forall_mem_cons.mpr ⟨ha c (by simp), hu.noStop⟩
      · rw [List.infix_cons_iff]
        rintro (hpre | hinfix)
        · exact hfirst (hpre.trans (List.prefix_append (c :: u) _))
        · exact hu.noEnd hinfix

/-- Template arguments with a `>::` inside are cut there, and what comes behind it stays. -/
theorem exists_mem_removeQualifier_written (f : Text) (hs : IsWord s)
    (ha : ∀ c ∈ a, isStop c = false) (hend : argumentsEnd <:+: a) :
    ∃ c ∈ removeQualifier s (written s a ++ f), isQualifierChar c = false := by
  obtain ⟨u, b, hu, rfl⟩ := exists_isArguments ha hend
  have htext : written s (u ++ (argumentsEnd ++ b)) ++ f =
      written s u ++ (b ++ (argumentsEnd ++ f)) := by
    simp [written_eq]
  rw [htext, removeQualifier_written_append hs hu]
  exact exists_mem_removeFrom (d := '>') rfl (by simp [argumentsEnd]) rfl

end Written

end Scope

end DocTree
