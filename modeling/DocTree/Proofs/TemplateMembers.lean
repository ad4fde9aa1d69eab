/-
Members of specialized scopes.

A member may be defined with the template arguments of its class in front of its name, as in
`R C<A>::f(P)`.  It comes to the class, and is shown as `R f(P)` there, exactly when the scans of
its name and of its text find the template arguments as they are written:

* `Scope.split_specialized`, `Scope.dropArguments_specialized_iff` — the class is read from the
  name unless the arguments hold the keyword `operator` or a line break;
* `Tree.resolve_specialized_iff` — so the name leads to the class;
* `Tree.unqualify_specialized_iff` — and nothing else is taken for a qualifier;
* `Tree.place_specialized_iff` — both together.
-/
import DocTree.Proofs.Redeclaration
import DocTree.Proofs.TemplateQualifiers
import Mathlib.Data.List.Infix

namespace DocTree

namespace Scope

variable {s a f t x y tail : Text} {d : Int}

/-! ### Segments with template arguments -/

/-- The angle brackets of a text are properly nested. -/
structure IsNested (a : Text) : Prop where
  closed : angleDepth a = 0
  nonneg : ∀ x, x <+: a → 0 ≤ angleDepth x

instance (a : Text) : Decidable (IsNested a) :=
  decidable_of_iff (angleDepth a = 0 ∧ ∀ x ∈ a.inits, 0 ≤ angleDepth x) <| by
    simp only [List.mem_inits]
    exact ⟨fun h => ⟨h.1, h.2⟩, fun h => ⟨h.closed, h.nonneg⟩⟩

theorem angleDepth_of_isWord (hs : IsWord s) : angleDepth s = 0 :=
  angleDepth_eq_zero (hs.not_mem (by decide)) (hs.not_mem (by decide))

/-- Inside of the template arguments of a word the depth is positive. -/
theorem angleDepth_pos (hs : IsWord s) (ha : IsNested a) (hx : x <+: a) :
    0 < angleDepth (s ++ '<' :: x) := by
  have hopen : angleStep '<' = 1 := rfl
  have hnonneg := ha.nonneg x hx
  rw [angleDepth_append, angleDepth_of_isWord hs, angleDepth_cons, hopen]
  omega

/-- The first mark behind a word and an opening bracket comes after the bracket. -/
theorem exists_of_open_eq {z : Text} (hs : IsWord s) (h : s ++ '<' :: z = x ++ ':' :: y) :
    ∃ r, x = s ++ '<' :: r ∧ z = r ++ ':' :: y := by
  have hcolon : ':' ∉ s ++ ['<'] := by
    intro hmem
    rcases List.mem_append.mp hmem with hmem | hmem
    · exact hs.not_mem isWordChar_colon hmem
    · simp at hmem
  have h' : (s ++ ['<']) ++ z = x ++ ':' :: y := by simpa using h
  obtain ⟨r, rfl, hr⟩ := exists_of_append_eq_append_cons hcolon h'
  exact ⟨r, by simp, hr⟩

theorem isSegmentAt_specialized (hs : IsWord s) (ha : IsNested a) :
    IsSegmentAt 0 (specialized s a) := by
  have hopen : angleStep '<' = 1 := rfl
  have hclose : angleDepth ['>'] = -1 := rfl
  refine ⟨?_, fun x y heq => ?_⟩
  · rw [specialized, angleDepth_append, angleDepth_of_isWord hs, angleDepth_cons,
      angleDepth_append, ha.closed, hopen, hclose]
    rfl
  · -- a mark in it begins in front of the closing bracket
    have heq' : s ++ '<' :: (a ++ ['>', ':']) = x ++ ':' :: ':' :: y := by
      simpa [specialized] using heq
    obtain ⟨x, rfl, hx⟩ := exists_of_open_eq hs heq'
    have hprefix : x <+: a := by
      rcases List.append_eq_append_iff.mp hx with ⟨m, -, hm⟩ | ⟨m, rfl, -⟩
      · have hlength := congrArg List.length hm
        simp only [List.length_append, List.length_cons, List.length_nil] at hlength
        obtain rfl := List.length_eq_zero_iff.mp (by omega : m.length = 0)
        exact absurd (List.cons.inj hm).1 (by decide)
      · exact List.prefix_append x m
    have hpos := angleDepth_pos hs ha hprefix
    omega

/-- The keyword stands in the specialized scope where it stands in the arguments. -/
theorem find?_specialized (hs : IsWord s) (hkeyword : s ≠ Operator.keyword) (rest : Text) :
    Operator.find? (s ++ '<' :: (a ++ '>' :: rest)) =
      (Operator.find? a <|> (Operator.find? rest).map (· + (a.length + 1))).map
        (· + (s.length + 1)) := by
  have hnone : Operator.find? s = none := by
    rw [Operator.find?_of_forall_isWordChar hs.2, if_neg hkeyword]
  rw [Operator.find?_append_cons (by decide), Operator.find?_append_cons (by decide), hnone]
  rfl

/-- Without the keyword in its template arguments, the scope is the first segment of the name; with
it, all of the name is one segment. -/
theorem split_specialized (hs : IsWord s) (hkeyword : s ≠ Operator.keyword) (ha : IsNested a)
    (hf : IsWord f) :
    split (qualified [specialized s a] f) =
      if Operator.find? a = none then [specialized s a, f]
      else [qualified [specialized s a] f] := by
  split
  · rename_i hnone
    refine (split_qualified [specialized s a] hf).mpr fun n hn => ?_
    obtain rfl := List.mem_singleton.mp hn
    refine ⟨?_, isSegmentAt_specialized hs ha⟩
    rw [specialized, find?_specialized hs hkeyword, hnone]
    rfl
  · rename_i hsome
    obtain ⟨k, hk⟩ := Option.ne_none_iff_exists'.mp hsome
    have htext : qualified [specialized s a] f =
        s ++ '<' :: (a ++ '>' :: (scopeMark ++ f)) := by
      rw [qualified_cons, qualified_nil]
      simp [specialized, scopeMark]
    have hfind : Operator.find? (qualified [specialized s a] f) = some (k + (s.length + 1)) := by
      rw [htext, find?_specialized hs hkeyword, hk]
      rfl
    have htake : (qualified [specialized s a] f).take (k + (s.length + 1)) =
        s ++ '<' :: a.take k := by
      have hlt := Operator.lt_of_findFrom_eq_some hk
      have hcut : s ++ '<' :: (a ++ '>' :: (scopeMark ++ f)) =
          (s ++ '<' :: a.take k) ++ (a.drop k ++ '>' :: (scopeMark ++ f)) := by
        nth_rewrite 1 [← List.take_append_drop k a]
        simp only [List.append_assoc, List.cons_append]
      rw [htext, hcut, List.take_left']
      simp
      omega
    have hinside : ∀ x y, s ++ '<' :: a.take k = x ++ ':' :: ':' :: y → 0 + angleDepth x ≠ 0 := by
      intro x y heq
      obtain ⟨x, rfl, hx⟩ := exists_of_open_eq hs heq
      have hprefix : x <+: a := by
        refine List.IsPrefix.trans ?_ (List.take_prefix k a)
        rw [hx]
        exact List.prefix_append _ _
      have hpos := angleDepth_pos hs ha hprefix
      omega
    rw [split, hfind]
    dsimp only
    rw [htake, splitFrom_eq_singleton_iff.mpr hinside, ← htake, List.take_append_drop]

/-! ### Looking up the scope -/

theorem dropArguments_append (h : '<' ∉ x) (y : Text) :
    dropArguments (x ++ y) = x ++ dropArguments y := by
  induction x with
  | nil => rfl
  | cons c x ih =>
    have hc : c ≠ '<' := fun heq => h (by simp [heq])
    rw [List.cons_append, dropArguments, if_neg hc, ih fun hmem => h (by simp [hmem])]
    rfl

/-- Template arguments on one line are dropped. -/
theorem dropArguments_specialized_iff (hs : IsWord s) :
    dropArguments (specialized s a) = s ↔ '\n' ∉ a := by
  have hopen : '<' ∉ s := hs.not_mem (by decide)
  rw [specialized, dropArguments_append hopen, dropArguments, if_pos rfl]
  constructor
  · intro h hline
    have hnone : closing? (a ++ ['>']) = none := by
      rw [Option.eq_none_iff_forall_ne_some]
      intro after hafter
      obtain ⟨rfl | rfl, y, hy, heq⟩ := closing?_eq_some.mp hafter
      · exact hy ((List.append_inj' heq rfl).1 ▸ hline)
      · have := congrArg List.getLast? heq
        simp at this
    rw [hnone] at h
    exact absurd (List.append_right_eq_self.mp h) (by simp)
  · intro hline
    rw [closing?_eq_some.mpr ⟨.inl rfl, a, hline, rfl⟩, List.append_nil]

end Scope

namespace Tree

variable {t : Tree} {item : Item} {i : Nat} {c a f r ps : Text}

theorem eq_of_keysAlong_singleton {k : Text} (h : t.KeysAlong [i] [c])
    (h' : t.KeysAlong [i] [k]) : k = c := by
  obtain ⟨e, he, hkey, -⟩ := scopeIndex?_eq_some.mp h.1
  obtain ⟨e', he', hkey', -⟩ := scopeIndex?_eq_some.mp h'.1
  obtain rfl := Option.some.inj (he.symm.trans he')
  exact Option.some.inj (hkey'.symm.trans hkey)

/-- A name with a specialized scope leads to the scope exactly when its template arguments are on
one line and do not hold the keyword. -/
theorem resolve_specialized_iff (hkeys : t.KeysAlong [i] [c]) (hc : IsWord c)
    (hkeyword : c ≠ Operator.keyword) (hf : IsWord f) (ha : Scope.IsNested a)
    (hitem : item.qualifiedName = some (qualified [Scope.specialized c a] f)) :
    t.resolve [] item = .ok [i] ↔ Operator.find? a = none ∧ '\n' ∉ a := by
  have hne : Scope.specialized c a ≠ [] := by simp [Scope.specialized]
  have hsplit := Scope.split_specialized hc hkeyword ha hf
  by_cases hfind : Operator.find? a = none
  · have hcut : Scope.split (qualified [Scope.specialized c a] f) =
        [Scope.specialized c a] ++ [f] := by
      rw [hsplit, if_pos hfind]
      rfl
    rw [resolve_eq_ok hitem (Scope.qualified_ne_nil hf) hcut,
      foldlM_resolveStep_eq_ok (by simpa using hne), and_iff_right hfind,
      ← Scope.dropArguments_specialized_iff hc]
    constructor
    · intro h
      exact eq_of_keysAlong_singleton hkeys h
    · intro h
      simpa [h] using hkeys
  · have hcut : Scope.split (qualified [Scope.specialized c a] f) =
        [] ++ [qualified [Scope.specialized c a] f] := by
      rw [hsplit, if_neg hfind]
      rfl
    rw [resolve_eq_ok hitem (Scope.qualified_ne_nil hf) hcut]
    refine iff_of_false (fun h => ?_) fun h => hfind h.1
    exact absurd (Except.ok.inj h) (by simp)

theorem mem_dropRootMark {d : Char} {x : Text} (hd : d ∈ x) (hne : d ≠ ':') :
    d ∈ dropRootMark x := by
  unfold dropRootMark
  split
  · simpa [hne] using hd
  · exact hd

theorem dropRootMark_of_not_mem (hf : ':' ∉ f) : dropRootMark f = f := by
  unfold dropRootMark
  split
  · exact absurd (by simp) hf
  · rfl

/-- The name and the display are as in the scope exactly when nothing but the qualifier is taken for
one. -/
theorem unqualify_specialized_iff (hc : IsWord c) (hf : IsWord f)
    (hstop : ∀ d ∈ a, Scope.isStop d = false)
    (hitem : item.qualifiedName = some (qualified [Scope.specialized c a] f))
    (hdisplay : item.display = some (functionText r (qualified [Scope.specialized c a] f) ps)) :
    ((unqualify [c] item).name = some f ∧
        (unqualify [c] item).display = some (functionText r f ps)) ↔
      ¬ Scope.argumentsEnd <:+: a ∧ ¬ Scope.Qualifies c (r ++ Scope.argumentsEnd) ∧
        ¬ Scope.Qualifies c ps := by
  have htext : qualified [Scope.specialized c a] f = Scope.written c a ++ f := by
    rw [qualified_cons, qualified_nil]
    simp [Scope.written, scopeMark]
  have hname : (unqualify [c] item).name =
      (dropRootMark (Scope.removeQualifier c (Scope.written c a ++ f))).nonempty? := by
    rw [unqualify, hitem, htext]
    rfl
  have hshown : (unqualify [c] item).display =
      some (Scope.removeQualifier c (functionText r (Scope.written c a ++ f) ps)) := by
    rw [unqualify, hdisplay, htext]
    rfl
  rw [hname, hshown, Option.some_inj]
  by_cases hend : Scope.argumentsEnd <:+: a
  · -- something that belongs to no name is left of the qualified name
    refine iff_of_false (fun h => ?_) fun h => h.1 hend
    obtain ⟨d, hd, hchar⟩ := Scope.exists_mem_removeQualifier_written f hc hstop hend
    have hne : d ≠ ':' := by
      rintro rfl
      exact absurd hchar (by decide)
    have hleft := mem_dropRootMark hd hne
    have heq := h.1
    rw [Text.nonempty?, Option.ite_none_left_eq_some, Option.some_inj] at heq
    rw [heq.2] at hleft
    simp [Scope.isQualifierChar, hf.2 d hleft] at hchar
  · have ha : Scope.IsArguments a := ⟨hstop, hend⟩
    rw [Scope.removeQualifier_written hc hf ha,
      dropRootMark_of_not_mem (hf.not_mem isWordChar_colon),
      Scope.removeQualifier_functionText_iff hc hf ha]
    simp [Text.nonempty?, hf.1, hend]

theorem destination_eq_ok_of_directives_nil {p : Position} {x : Item}
    (hdir : item.directives = []) :
    t.destination none item = .ok (p, x) ↔
      t.resolve [] { item with asIs := false } = .ok p ∧
        x = t.settle p { item with asIs := false } := by
  constructor
  · intro h
    have htarget : t.targetOf none item = .ok { parent := none } := by
      rw [targetOf, hdir]
      rfl
    obtain ⟨target, htarget', h⟩ := bind_eq_ok.mp h
    obtain rfl := Except.ok.inj (htarget.symm.trans htarget')
    obtain ⟨parent, hparent, h⟩ := bind_eq_ok.mp h
    obtain ⟨rfl, rfl⟩ := Prod.mk.inj (Except.ok.inj h)
    exact ⟨hparent, rfl⟩
  · rintro ⟨hresolve, rfl⟩
    exact destination_of_directives_nil hdir hresolve

/-- Settling gives a qualified item the name and display that unqualifying gives it. -/
theorem name_display_settle (t : Tree) (p : Position) {q : Text}
    (hitem : item.qualifiedName = some q) (hq : q ≠ []) :
    (t.settle p item).name = (unqualify (t.namesAlong p) item).name ∧
      (t.settle p item).display = (unqualify (t.namesAlong p) item).display := by
  have hsome : Text.isNoText item.qualifiedName = false := by
    rw [hitem]
    simpa [Text.isNoText] using hq
  unfold settle
  rw [hsome]
  dsimp only
  rw [if_neg (by simp)]
  split <;> exact ⟨rfl, rfl⟩

/-- **When a specialized scope is stripped exactly.**  Let a scope at the top level be found through
its name `c`, and let the angle brackets of `a` be properly nested.  A function `r c<a>::f(ps)`
that is placed from the root comes below the scope, with the name `f` and the display `r f(ps)`,
exactly when `a` is on one line and holds neither the keyword `operator` nor a `>::`, and nothing in
`r`, as far as the end of the template arguments behind it, and nothing in `ps` is taken for a
qualifier. -/
theorem place_specialized_iff (hkeys : t.KeysAlong [i] [c]) (hscopes : t.ScopesAlong [i] [c])
    (hc : IsWord c) (hkeyword : c ≠ Operator.keyword) (hf : IsWord f) (ha : Scope.IsNested a)
    (hstop : ∀ d ∈ a, Scope.isStop d = false) (hdir : item.directives = [])
    (hitem : item.qualifiedName = some (qualified [Scope.specialized c a] f))
    (hdisplay : item.display = some (functionText r (qualified [Scope.specialized c a] f) ps)) :
    (∃ placed x, t.destination none item = .ok ([i], x) ∧ t.place none item = .ok placed ∧
        placed.tree = (t.insert [i] x).1 ∧ placed.position = (t.insert [i] x).2 ∧
        x.name = some f ∧ x.display = some (functionText r f ps)) ↔
      (Operator.find? a = none ∧ '\n' ∉ a) ∧ ¬ Scope.argumentsEnd <:+: a ∧
        ¬ Scope.Qualifies c (r ++ Scope.argumentsEnd) ∧ ¬ Scope.Qualifies c ps := by
  have hnames : t.namesAlong [i] = [c] :=
    namesAlong_of_scopesAlong (by simpa using hc.1) hscopes
  let y : Item := { item with asIs := false }
  have hy : y.qualifiedName = some (qualified [Scope.specialized c a] f) := hitem
  have hydisplay : y.display = some (functionText r (qualified [Scope.specialized c a] f) ps) :=
    hdisplay
  have hsettle := name_display_settle t [i] hy (Scope.qualified_ne_nil hf)
  rw [hnames] at hsettle
  rw [← resolve_specialized_iff hkeys hc hkeyword hf ha hy,
    ← unqualify_specialized_iff hc hf hstop hy hydisplay]
  constructor
  · rintro ⟨placed, x, hdest, -, -, -, hname, hshown⟩
    obtain ⟨hresolve, rfl⟩ := (destination_eq_ok_of_directives_nil hdir).mp hdest
    exact ⟨hresolve, hsettle.1 ▸ hname, hsettle.2 ▸ hshown⟩
  · rintro ⟨hresolve, hname, hshown⟩
    have hdest := (destination_eq_ok_of_directives_nil hdir).mpr ⟨hresolve, rfl⟩
    obtain ⟨placed, hplace, htree, hposition⟩ := place_of_destination hdest
    exact ⟨placed, _, hdest, hplace, htree, hposition, hsettle.1.trans hname,
      hsettle.2.trans hshown⟩

/-- A class at the top level. -/
def oneClass : Tree :=
  (Session.run [.read "a.h".toList ["//! A class.".toList, "class C;".toList]]).tree

/-- A member whose result type and parameter name the class too. -/
def copiesMember : Item :=
  ({} : Item).declare "std::vector<C> C<int, B<char>>::f(const C<int>& other)".toList

/-- The qualifier is removed, and nothing else. -/
theorem place_copiesMember :
    oneClass.ScopesAlong [0] ["C".toList] ∧ Scope.IsNested "int, B<char>".toList ∧
      ∃ placed x, oneClass.place none copiesMember = .ok placed ∧
        placed.tree = (oneClass.insert [0] x).1 ∧ x.name = some "f".toList ∧
        x.display = some "std::vector<C> f(const C<int>& other)".toList := by
  have hscopes : oneClass.ScopesAlong [0] ["C".toList] := by decide +kernel
  have hfind : oneClass.find [] "C".toList = .ok [0] := by decide +kernel
  have hkeys : oneClass.KeysAlong [0] ["C".toList] := (find_eq_ok_iff_keysAlong.mp hfind).2
  have hnested : Scope.IsNested "int, B<char>".toList := by decide
  have hstop : ∀ d ∈ "int, B<char>".toList, Scope.isStop d = false :=
    List.forall_iff_forall_mem.mp (by decide)
  have hc : IsWord "C".toList := by decide
  have hkeep : ∀ {x : Text}, Scope.removeQualifier "C".toList x = x →
      ¬ Scope.Qualifies "C".toList x := (Scope.removeQualifier_eq_self_iff hc).mp
  have hname : copiesMember.qualifiedName =
      some (qualified [Scope.specialized "C".toList "int, B<char>".toList] "f".toList) := by
    decide +kernel
  have hdisplay : copiesMember.display = some (functionText "std::vector<C>".toList
      (qualified [Scope.specialized "C".toList "int, B<char>".toList] "f".toList)
      "const C<int>& other".toList) := by
    decide +kernel
  obtain ⟨placed, x, -, hplace, htree, -, hxname, hxdisplay⟩ :=
    (place_specialized_iff hkeys hscopes hc (by decide) (by decide) hnested hstop rfl hname
      hdisplay).mpr ⟨⟨by decide, by decide⟩, by decide, hkeep (by decide), hkeep (by decide)⟩
  exact ⟨hscopes, hnested, placed, x, hplace, htree, hxname, hxdisplay⟩

/-- A member whose result type is a specialization of the class. -/
def cloneMember : Item := ({} : Item).declare "C<int> C<int>::f(int x)".toList

/-- The result type is taken for the beginning of the qualifier, and lost with it. -/
theorem place_cloneMember :
    cloneMember.qualifiedName =
        some (qualified [Scope.specialized "C".toList "int".toList] "f".toList) ∧
      cloneMember.display = some (functionText "C<int>".toList
        (qualified [Scope.specialized "C".toList "int".toList] "f".toList) "int x".toList) ∧
      ':' ∉ "C<int>".toList ∧ ':' ∉ "int x".toList ∧
      ((oneClass.place none cloneMember).toOption.bind fun placed =>
          placed.tree.get? placed.position).map (fun node => (node.item.name, node.item.display)) =
        some (some "f".toList, some "f(int x)".toList) := by
  decide +kernel

end Tree

end DocTree
