/-
The name of a function among the words of its declaration.

The words in front of the parameter list give the name:

* `Names` — the last word, an operator with its symbol, or a conversion operator with the words of
  its type;
* `Identifier.naming_spaced` — the words end at the parameter list, whether or not the declaration
  is cut at `=` first;
* `Names.dropPointerMark_choose` — among the words, the name is chosen;
* `Identifier.ofDeclaration_words` — so the identifier of the declaration is that name.
-/
import DocTree.Proofs.DeclaredWords
import DocTree.Proofs.TopLevelNames

namespace DocTree

variable {p : Char → Bool} {c : Char} {q s t v w x y rest : Text}

/-! ### The parameter list -/

namespace Text

theorem ne_nil_of_dropWhile (h : x.dropWhile p ≠ []) : x ≠ [] := by
  rintro rfl
  exact h rfl

theorem dropWhile_append_of_ne_nil (h : x.dropWhile p ≠ []) :
    (x ++ y).dropWhile p = x.dropWhile p ++ y := by
  rw [List.dropWhile_append, if_neg (by simpa using h)]

theorem takeWhile_append_of_ne_nil (h : x.dropWhile p ≠ []) :
    (x ++ y).takeWhile p = x.takeWhile p := by
  have hlength : (x.takeWhile p).length ≠ x.length := by
    have hsum := congrArg List.length (List.takeWhile_append_dropWhile (p := p) (l := x))
    have hpos := List.length_pos_iff.mpr h
    rw [List.length_append] at hsum
    omega
  rw [List.takeWhile_append, if_neg hlength]

end Text

namespace Identifier

/-- A pointer declarator is read to its closing bracket and no further. -/
theorem pointerName?_append {name : Text} (h : pointerName? t = some name) (y : Text) :
    pointerName? (t ++ y) = some name := by
  unfold pointerName? at h
  split at h
  · rename_i rest
    dsimp only at h
    split at h
    · rename_i hcond
      simp only [Bool.and_eq_true, beq_iff_eq] at hcond
      obtain ⟨⟨hmark, hname⟩, hclosed⟩ := hcond
      -- each cut leaves something over, so the next one goes on as before
      have hlast := List.ne_nil_of_mem (List.mem_of_head? hclosed)
      have hafter := Text.ne_nil_of_dropWhile hlast
      have hnamed := Text.ne_nil_of_dropWhile hafter
      have hmarked := Text.ne_nil_of_dropWhile hnamed
      have hrest := Text.ne_nil_of_dropWhile hmarked
      rw [List.cons_append, pointerName?]
      simp only [Text.trimStart_append hrest, Text.dropWhile_append_of_ne_nil hmarked,
        Text.trimStart_append hnamed, Text.takeWhile_append_of_ne_nil hafter,
        Text.dropWhile_append_of_ne_nil hafter, Text.trimStart_append hlast,
        List.head?_append_of_ne_nil _ hrest, List.head?_append_of_ne_nil _ hlast]
      rw [if_pos (by simp only [Bool.and_eq_true, beq_iff_eq]; exact ⟨⟨hmark, hname⟩, hclosed⟩)]
      exact h
    · exact absurd h (by simp)
  · exact absurd h (by simp)

theorem pointerName?_eq_none_of_isPrefix {list list' : Text} (h : list' <+: list)
    (hnone : pointerName? ('(' :: list) = none) : pointerName? ('(' :: list') = none := by
  obtain ⟨y, rfl⟩ := h
  rw [Option.eq_none_iff_forall_ne_some]
  intro name hname
  have := pointerName?_append hname y
  rw [List.cons_append, hnone] at this
  exact absurd this (by simp)

/-- The words stand before the parameter list, cut at `=` or not. -/
theorem naming_spaced {ws : List Text} {list : Text} (ht : Spaced ws t) (hread : Readable ws)
    (hpointer : pointerName? ('(' :: list) = none) (keywordLed : Bool) :
    naming keywordLed (t ++ '(' :: list) = (t, true) := by
  have hbounds : ∀ list, Bounds ('(' :: list) := fun list c hc => .inr (Option.some.inj hc).symm
  have hcut : ∃ list', list' <+: list ∧
      (if keywordLed then ((splitAtTop '=' (t ++ '(' :: list)).map Prod.fst).getD (t ++ '(' :: list)
        else t ++ '(' :: list) = t ++ '(' :: list' := by
    cases keywordLed with
    | false => exact ⟨list, List.prefix_refl list, rfl⟩
    | true =>
      have hpass : splitAtTop '=' ('(' :: list) =
          (splitAtTopFrom '=' 0 (markTokens Operator.tokenLength list)).map
            fun cut => ('(' :: cut.1, cut.2) := by
        rw [splitAtTop, Operator.markTokens_cons (by decide)]
        rfl
      rw [if_pos rfl, ht.splitAtTop_append hread (.inr rfl) (hbounds list), hpass]
      cases hsplit : splitAtTopFrom '=' 0 (markTokens Operator.tokenLength list) with
      | none => exact ⟨list, List.prefix_refl list, rfl⟩
      | some cut =>
        have happend := append_of_splitAtTopFrom hsplit
        rw [unmark, map_fst_markTokens] at happend
        exact ⟨cut.1, ⟨cut.2, happend⟩, rfl⟩
  obtain ⟨list', hpre, hcut⟩ := hcut
  have hnone := pointerName?_eq_none_of_isPrefix hpre hpointer
  have hopen : splitAtTop '(' ('(' :: list') = some ([], '(' :: list') := by
    rw [splitAtTop, Operator.markTokens_cons (by decide), splitAtTopFrom, if_pos (by decide),
      unmark, map_fst_markTokens]
  simp only [naming, hcut, ht.splitAtTop_append hread (.inl rfl) (hbounds list'), hopen,
    Option.map_some, hnone, List.append_nil]
  rfl

/-! ### The word that names -/

theorem choose_last {ws : List Text} (hop : ∀ u ∈ ws ++ [w], endsInOperator u = false)
    (keywordLed : Bool) : choose keywordLed true (ws ++ [w]) = w := by
  cases ws with
  | nil => simp [choose]
  | cons u ws => exact choose_concat (by simp) hop keywordLed

/-- From a conversion operator on, all words are joined. -/
theorem choose_conversion {ws us : List Text} (hop : ∀ u ∈ ws, endsInOperator u = false)
    (hw : endsInOperator w = true) (keywordLed : Bool) :
    choose keywordLed true (ws ++ w :: v :: us) = Text.join [' '] (w :: v :: us) := by
  have hdrop : (ws ++ w :: v :: us).dropWhile (fun u => !endsInOperator u) = w :: v :: us := by
    rw [List.dropWhile_append_of_pos (by simpa using hop),
      List.dropWhile_cons_of_neg (by simp [hw])]
  obtain ⟨first, second, rest, hcons⟩ :
      ∃ first second rest, ws ++ w :: v :: us = first :: second :: rest := by
    rcases ws with _ | ⟨a, _ | ⟨b, ws⟩⟩
    · exact ⟨_, _, _, rfl⟩
    · exact ⟨_, _, _, rfl⟩
    · exact ⟨_, _, _, rfl⟩
  rw [hcons] at hdrop ⊢
  rw [choose]
  simp only [hdrop]

theorem endsInOperator_concat (hc : c ≠ 'r') (x : Text) : endsInOperator (x ++ [c]) = false := by
  unfold endsInOperator
  cases h : Operator.keyword.reverse.isPrefixOf? (x ++ [c]).reverse with
  | none => rfl
  | some before =>
    have heq := List.isPrefixOf?_eq_some_iff_append_eq.mp h
    have hreverse : Operator.keyword.reverse = 'r' :: "otarepo".toList := by decide
    rw [List.reverse_concat, hreverse] at heq
    exact absurd (List.cons.inj heq).1.symm hc

theorem endsInOperator_symbol (hs : IsSymbol s) (x : Text) : endsInOperator (x ++ s) = false := by
  have hlast : ∃ y c, s = y ++ [c] ∧ c ≠ 'r' := by
    rcases hs with rfl | rfl | ⟨hne, hall⟩
    · exact ⟨['('], ')', rfl, by decide⟩
    · exact ⟨['['], ']', rfl, by decide⟩
    · refine ⟨s.dropLast, s.getLast hne, (List.dropLast_concat_getLast hne).symm, ?_⟩
      rintro hr
      have hmem := hall _ (List.getLast_mem hne)
      rw [hr] at hmem
      exact absurd hmem (by decide)
  obtain ⟨y, c, rfl, hc⟩ := hlast
  rw [← List.append_assoc]
  exact endsInOperator_concat hc _

theorem endsInOperator_keyword (hq : IsOperatorScope q) :
    endsInOperator (q ++ Operator.keyword) = true := by
  have hpre : Operator.keyword.reverse.isPrefixOf? (q ++ Operator.keyword).reverse =
      some q.reverse :=
    List.isPrefixOf?_eq_some_iff_append_eq.mpr List.reverse_append.symm
  unfold endsInOperator
  rw [hpre]
  rcases hq with rfl | ⟨-, ⟨x, rfl⟩, -⟩
  · rfl
  · rw [List.reverse_append]
    rfl

/-- No pointer mark stands in front of an operator. -/
theorem dropPointerMark_operator (hq : IsOperatorScope q) (s : Text) :
    dropPointerMark (q ++ (Operator.keyword ++ s)) = q ++ (Operator.keyword ++ s) := by
  rcases hq with rfl | ⟨hq, -, hhead⟩
  · rfl
  · obtain ⟨c, u, rfl⟩ := List.exists_cons_of_ne_nil hq.ne_nil
    obtain ⟨hstar, hand⟩ := hhead c rfl
    rw [List.cons_append, dropPointerMark, if_neg (by simp [hstar, hand])]

end Identifier

/-- The name that words give to a function. -/
inductive Names : List Text → Text → Prop
  | last {ws : List Text} {w : Text} (hws : ∀ u ∈ ws, IsPlainWord u) (hw : IsPlainWord w) :
      Names (ws ++ [w]) (Identifier.dropPointerMark w)
  | symbol {ws : List Text} {q gap s : Text} (hws : ∀ u ∈ ws, IsPlainWord u)
      (hq : IsOperatorScope q) (hgap : ∀ c ∈ gap, isSpaceOrTab c = true) (hs : IsSymbol s) :
      Names (ws ++ [q ++ (Operator.keyword ++ (gap ++ s))]) (q ++ (Operator.keyword ++ (gap ++ s)))
  | conversion {ws us : List Text} {q v : Text} (hws : ∀ u ∈ ws, IsPlainWord u)
      (hq : IsOperatorScope q) (hv : IsPlainWord v) (hus : ∀ u ∈ us, IsPlainWord u)
      (hsymbol : ¬ BeginsWithSymbol v) :
      Names (ws ++ (q ++ Operator.keyword) :: v :: us)
        (Text.join [' '] ((q ++ Operator.keyword) :: v :: us))

namespace Names

variable {ws : List Text} {name list : Text}

theorem readable_append {us : List Text} (hws : ∀ u ∈ ws, IsPlainWord u) (hus : Readable us) :
    Readable (ws ++ us) := by
  induction ws with
  | nil => exact hus
  | cons w ws ih => exact ⟨.inl (hws w (by simp)), ih fun u hu => hws u (by simp [hu])⟩

theorem readable (h : Names ws name) : Readable ws := by
  cases h with
  | last hws hw => exact readable_append hws ⟨.inl hw, trivial⟩
  | symbol hws hq hgap hs =>
    exact readable_append hws ⟨.inr (.inl ⟨_, _, _, hq, hgap, hs, rfl⟩), trivial⟩
  | @conversion ws us q v hws hq hv hus hsymbol =>
    have htype : Readable ((v :: us) ++ []) :=
      readable_append (List.forall_mem_cons.mpr ⟨hv, hus⟩) trivial
    rw [List.append_nil] at htype
    exact readable_append hws ⟨.inr (.inr ⟨q, v, us, hq, rfl, rfl, hv, hsymbol⟩), htype⟩

/-- The word that is chosen gives the name. -/
theorem dropPointerMark_choose (h : Names ws name) (keywordLed : Bool) :
    Identifier.dropPointerMark (Identifier.choose keywordLed true ws) = name := by
  have hplain : ∀ {ws : List Text}, (∀ u ∈ ws, IsPlainWord u) →
      ∀ u ∈ ws, Identifier.endsInOperator u = false :=
    fun hws u hu => endsInOperator_eq_false (hws u hu).keyword
  cases h with
  | last hws hw =>
    rw [Identifier.choose_last]
    rw [List.forall_mem_append, List.forall_mem_singleton]
    exact ⟨hplain hws, endsInOperator_eq_false hw.keyword⟩
  | @symbol ws q gap s hws hq hgap hs =>
    rw [Identifier.choose_last, Identifier.dropPointerMark_operator hq]
    rw [List.forall_mem_append, List.forall_mem_singleton]
    refine ⟨hplain hws, ?_⟩
    have := Identifier.endsInOperator_symbol hs (q ++ (Operator.keyword ++ gap))
    simpa only [List.append_assoc] using this
  | @conversion ws us q v hws hq hv hus hsymbol =>
    rw [Identifier.choose_conversion (hplain hws) (Identifier.endsInOperator_keyword hq),
      Text.join_cons, List.append_assoc]
    exact Identifier.dropPointerMark_operator hq _

end Names

/-! ### The identifier -/

namespace Text

/-- Trimming the end does not reach a character that is no blank. -/
theorem exists_trimEnd_append_cons (hc : isBlank c = false) (x y : Text) :
    ∃ z, z <+: y ∧ trimEnd (x ++ c :: y) = x ++ c :: z := by
  obtain ⟨s, hs, hall⟩ := exists_dropEndWhile_append isBlank (x ++ c :: y)
  have happend : trimEnd (x ++ c :: y) ++ s = (x ++ [c]) ++ y := by
    rw [trimEnd, hs, List.append_assoc, List.singleton_append]
  rcases List.append_eq_append_iff.mp happend with ⟨u, hu, rfl⟩ | ⟨z, hz, rfl⟩
  · -- the character itself would be trimmed
    rcases List.eq_nil_or_concat u with rfl | ⟨u, e, rfl⟩
    · exact ⟨[], List.nil_prefix, by simpa using hu.symm⟩
    · rw [List.concat_eq_append, ← List.append_assoc] at hu
      obtain rfl := List.singleton_inj.mp (List.append_inj_right' hu rfl)
      simp [hc] at hall
  · exact ⟨z, List.prefix_append z s, by simpa using hz⟩

end Text

/-- A word other than `enum` does not lead a scoped enum. -/
theorem StandsIn.joinScopedEnum_eq (h : StandsIn w rest) (hrest : Bounds rest)
    (hw : w ≠ "enum".toList) : Identifier.joinScopedEnum (w ++ rest) = w ++ rest := by
  have hnone : scopedEnum? (w ++ rest) = none := by
    unfold scopedEnum?
    refine if_neg ?_
    rintro ⟨hlead, hblank, -⟩
    obtain ⟨c, y, hafter⟩ : ∃ c y, (w ++ rest).afterWord = c :: y :=
      List.exists_cons_of_ne_nil fun hnil => by simp [hnil] at hblank
    have hc : isBlank c = true := by simpa [hafter] using hblank
    have htext := Text.leadingWord_append_afterWord (w ++ rest)
    rw [hlead, hafter] at htext
    obtain ⟨front, token, x, rfl, henum, htoken, heq⟩ :=
      h.exists_of_append_cons hc (by decide) htext.symm
    -- `enum` is cut into the plain text and `x`, which begins with no `o`
    have hchars : ∀ e ∈ x, e ≠ 'o' ∧ isBlank e = false ∧ e ≠ '(' := fun e he => by
      have hall : ∀ e ∈ "enum".toList, e ≠ 'o' ∧ isBlank e = false ∧ e ≠ '(' :=
        List.forall_iff_forall_mem.mp (by decide)
      exact hall e (by rw [henum]; exact List.mem_append_right _ he)
    have hhead : (token ++ rest).head? = (x ++ c :: y).head? := congrArg List.head? heq
    rcases htoken with rfl | ⟨s, rfl⟩
    · cases x with
      | nil => exact hw (by rw [henum])
      | cons e x =>
        obtain ⟨-, h₁, h₂⟩ := hchars e (by simp)
        rcases hrest e hhead with he | he
        · exact absurd he (by simp [h₁])
        · exact h₂ he
    · have ho : (Operator.keyword ++ s ++ rest).head? = some 'o' := rfl
      rw [ho] at hhead
      cases x with
      | nil =>
        obtain rfl := Option.some.inj hhead
        exact absurd hc (by decide)
      | cons e x => exact (hchars e (by simp)).1 (Option.some.inj hhead).symm
  rw [Identifier.joinScopedEnum, hnone]

/-- **The identifier of a function declaration.**  The words in front of the parameter list give
the name: where none of them holds the keyword `operator`, the last of them without a pointer mark;
where the last is an operator with its symbol, just that; and where the type of a conversion
operator follows the keyword, the words from there on with one space between them. -/
theorem Identifier.ofDeclaration_words {ws : List Text} {t name list : Text} (ht : Spaced ws t)
    (hnames : Names ws name)
    (hfirst : ∀ w, ws.head? = some w → w ≠ "enum".toList ∧ w.leadingWord ≠ "template".toList)
    (hpointer : pointerName? ('(' :: list) = none) :
    ofDeclaration (t ++ '(' :: list) = name := by
  have hread := hnames.readable
  have hbounds : ∀ list, Bounds ('(' :: list) := fun list c hc => .inr (Option.some.inj hc).symm
  obtain ⟨w, ws, rfl⟩ : ∃ w vs, ws = w :: vs := by
    cases ht <;> exact ⟨_, _, rfl⟩
  obtain ⟨henum, htemplate⟩ := hfirst w rfl
  have hstart : (t ++ '(' :: list).trimStart = t ++ '(' :: list := by
    obtain ⟨u, rfl, hw, -⟩ := ht.exists_standsIn hread (hbounds list)
    obtain ⟨c, w, rfl, hc⟩ := hw.exists_cons
    exact List.dropWhile_cons_of_neg (by simp [hc])
  have hlead : (t ++ '(' :: list).leadingWord = w.leadingWord := by
    obtain ⟨u, rfl, -, hu⟩ := ht.exists_standsIn hread (hbounds list)
    obtain ⟨c, y, hcons⟩ : ∃ c y, u ++ '(' :: list = c :: y :=
      List.exists_cons_of_ne_nil (by simp)
    rw [List.append_assoc, hcons]
    refine Text.leadingWord_append_cons ?_
    simpa [hcons] using hu.isWordChar
  have htemplated : Templated.ofText (t ++ '(' :: list) = ⟨none, t ++ '(' :: list⟩ := by
    refine Templated.ofText_eq_self ?_
    rwa [hstart, hlead]
  obtain ⟨list', hpre, hend⟩ := Text.exists_trimEnd_append_cons (c := '(') (by decide) t list
  have htrim : (t ++ '(' :: list).trim = t ++ '(' :: list' := by
    rw [Text.trim, hstart, hend]
  have hjoin : joinScopedEnum (t ++ '(' :: list') = t ++ '(' :: list' := by
    obtain ⟨u, rfl, hw, hu⟩ := ht.exists_standsIn hread (hbounds list')
    rw [List.append_assoc]
    exact hw.joinScopedEnum_eq hu henum
  have hnone := pointerName?_eq_none_of_isPrefix hpre hpointer
  rw [ofDeclaration, hstart, htemplated]
  simp only [htrim, hjoin, naming_spaced ht hread hnone, ht.declaredWords_eq hread,
    hnames.dropPointerMark_choose]

/-- The words of a stream operator, the result type of which holds blanks and round brackets. -/
def streamWords : List Text :=
  ["const".toList, "Map<int (*)(char), A<B >>&".toList, "Log<A>::operator <<".toList]

theorem Identifier.ofDeclaration_streamWords :
    Spaced streamWords "const Map<int (*)(char), A<B >>& Log<A>::operator <<".toList ∧
      Names streamWords "Log<A>::operator <<".toList ∧
      pointerName? ('(' :: "const A<(1)>& a)".toList) = none ∧
      ofDeclaration
          "const Map<int (*)(char), A<B >>& Log<A>::operator <<(const A<(1)>& a)".toList =
        "Log<A>::operator <<".toList := by
  have hspaced :
      Spaced streamWords "const Map<int (*)(char), A<B >>& Log<A>::operator <<".toList := by
    have hblank : ∀ c ∈ [' '], isBlank c = true := List.forall_mem_singleton.mpr rfl
    exact .cons hblank (by decide) (.cons hblank (by decide) (.last (by simp)))
  have hnames : Names streamWords "Log<A>::operator <<".toList := by
    have hplain : ∀ u ∈ streamWords.take 2, IsPlainWord u := by decide
    have hscope : IsOperatorScope "Log<A>::".toList :=
      .inr ⟨by decide, ⟨"Log<A>".toList, rfl⟩, fun c hc => by
        obtain rfl := Option.some.inj hc
        decide⟩
    have hgap : ∀ c ∈ [' '], isSpaceOrTab c = true := List.forall_mem_singleton.mpr rfl
    have hsymbol : IsSymbol "<<".toList :=
      .inr (.inr ⟨by decide, List.forall_iff_forall_mem.mp (by decide)⟩)
    exact .symbol hplain hscope hgap hsymbol
  have hfirst : ∀ w, streamWords.head? = some w →
      w ≠ "enum".toList ∧ w.leadingWord ≠ "template".toList := by
    intro w hw
    obtain rfl := Option.some.inj hw
    decide
  have hpointer : pointerName? ('(' :: "const A<(1)>& a)".toList) = none := by decide
  have htext : "const Map<int (*)(char), A<B >>& Log<A>::operator <<(const A<(1)>& a)".toList =
      "const Map<int (*)(char), A<B >>& Log<A>::operator <<".toList ++
        '(' :: "const A<(1)>& a)".toList := by decide
  refine ⟨hspaced, hnames, hpointer, ?_⟩
  rw [htext]
  exact ofDeclaration_words hspaced hnames hfirst hpointer

end DocTree
