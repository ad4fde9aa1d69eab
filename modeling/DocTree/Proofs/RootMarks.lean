/-
Marks that lead to the root.

A qualified name may begin with `::`, which leads to the root, where a name without it leads from a
cursor at the root as well.  The mark is removed together with the first qualifier:

* `Scope.removeQualifier_functionText_scopeMark` — what is displayed is the same with and without
  the mark, whatever the scan takes for a qualifier in the result type;
* `Scope.exists_removeQualifiers_concat` — and it is not empty;
* `Session.name_of_scopeIndex?` — the scope at the top level bears the name that is removed.

Where no qualifier is left to remove, the mark stays: `minimalForm_scopeMark_ne`.  For functions at
the top level it makes two nodes out of one.  `Session.place_scopeMark` puts both together.
-/
import DocTree.Proofs.Overloads
import DocTree.Proofs.ShortNames
import DocTree.Proofs.TopLevelNames

namespace DocTree

namespace Scope

variable {s t u v w x y : Text} {c : Char} {before : Option Char} {scopes chain : List Text}

/-! ### A mark in front of the first qualifier -/

theorem isArguments_colon : IsArguments (':' :: u) ↔ IsArguments u := by
  have hend : argumentsEnd <:+: ':' :: u ↔ argumentsEnd <:+: u := by
    rw [List.infix_cons_iff]
    refine or_iff_right fun h => ?_
    simp [argumentsEnd] at h
  constructor
  · rintro ⟨hstop, hnone⟩
    exact ⟨fun c hc => hstop c (by simp [hc]), fun h => hnone (hend.mpr h)⟩
  · rintro ⟨hstop, hnone⟩
    exact ⟨List.forall_mem_cons.mpr ⟨rfl, hstop⟩, fun h => hnone (hend.mp h)⟩

theorem IsHead.isToken_blank {h : Text} (hh : IsHead s h) (hu : IsArguments u)
    (hv : IsArguments v) : IsToken s ((h ++ '<' :: u) ++ ' ' :: (v ++ argumentsEnd)) := by
  have huv : IsArguments (u ++ ' ' :: v) := (isArguments_append_cons (by decide) rfl).mpr ⟨hu, hv⟩
  simpa using hh.isToken huv

theorem exists_of_isPrefix_scopeMark (h : v ++ argumentsEnd <+: scopeMark ++ t) :
    ∃ v', v = scopeMark ++ v' ∧ v' ++ argumentsEnd <+: t := by
  rcases v with _ | ⟨c, _ | ⟨d, v⟩⟩
  · simp [argumentsEnd, scopeMark] at h
  · simp [argumentsEnd, scopeMark] at h
  · simp only [scopeMark, List.cons_append, List.nil_append, List.cons_prefix_cons] at h
    obtain ⟨rfl, rfl, h⟩ := h
    exact ⟨v, rfl, h⟩

/-- A mark behind a blank makes no token start in front of it. -/
theorem exists_token_of_scopeMark (hs : IsWord s)
    (h : ∃ w, IsToken s w ∧ w <+: x ++ ' ' :: (scopeMark ++ t)) :
    ∃ w, IsToken s w ∧ w <+: x ++ ' ' :: t := by
  obtain ⟨w, hw, hpre⟩ := h
  rcases hw.isPrefix_or_arguments hs hpre with hshort | ⟨h, u, v, hh, hu, hv, rfl, rfl, hvt⟩
  · exact ⟨w, hw, hshort.trans (List.prefix_append _ _)⟩
  · obtain ⟨v, rfl, ⟨z, rfl⟩⟩ := exists_of_isPrefix_scopeMark hvt
    have hv' : IsArguments v := isArguments_colon.mp (isArguments_colon.mp hv)
    exact ⟨_, hh.isToken_blank hu hv', ⟨z, by simp⟩⟩

/-- What remains of a text with a qualifier behind a blank does not depend on a mark in front of
the qualifier. -/
theorem removeFrom_scopeMark (hs : IsWord s)
    (hx : x = [] ∧ before.any isQualifierChar = false ∨ ∃ r, x = r ++ [' ']) (y : Text) :
    removeFrom (qualifierLength s) before (x ++ (scopeMark ++ (s ++ (scopeMark ++ y)))) =
      removeFrom (qualifierLength s) before (x ++ (s ++ (scopeMark ++ y))) := by
  -- the induction is on the length, as a token may take several characters at once
  induction hn : x.length using Nat.strong_induction_on generalizing x before with
  | _ n ih =>
    rcases hx with ⟨rfl, hbefore⟩ | ⟨r, rfl⟩
    · have hplain : IsToken s (s ++ scopeMark) := ⟨s, .inl rfl, .inl rfl⟩
      have hrooted : IsToken s (scopeMark ++ (s ++ scopeMark)) := ⟨s, .inl rfl, .inr rfl⟩
      have h₁ := removeFrom_of_isToken hrooted hs hbefore y
      have h₂ := removeFrom_of_isToken hplain hs hbefore y
      simp only [List.append_assoc] at h₁ h₂
      rw [List.nil_append, List.nil_append, h₁, h₂]
    · by_cases htoken : before.any isQualifierChar = false ∧
          ∃ w, IsToken s w ∧ w <+: r ++ ' ' :: (s ++ (scopeMark ++ y))
      · obtain ⟨hbefore, w, hw, hpre⟩ := htoken
        rcases hw.isPrefix_or_arguments hs hpre with
          ⟨r, rfl⟩ | ⟨h, u, v, hh, hu, hv, rfl, rfl, z, hz⟩
        · have hpos : 0 < w.length := List.length_pos_iff.mpr hw.ne_nil
          have hlt : (r ++ [' ']).length < n := by
            simp only [← hn, List.length_append]
            omega
          have hrest : removeFrom (qualifierLength s) (some ':')
              (r ++ [' '] ++ (scopeMark ++ (s ++ (scopeMark ++ y)))) =
                removeFrom (qualifierLength s) (some ':') (r ++ [' '] ++ (s ++ (scopeMark ++ y))) :=
            ih _ hlt (.inr ⟨r, rfl⟩) rfl
          have htext : ∀ z, w ++ r ++ [' '] ++ z = w ++ (r ++ [' '] ++ z) := fun z => by simp
          rw [htext, htext, removeFrom_of_isToken hw hs hbefore,
            removeFrom_of_isToken hw hs hbefore, hrest]
        · -- the token ends behind the blank, and so does one with the mark in it
          have hv' : IsArguments (scopeMark ++ v) :=
            isArguments_colon.mpr (isArguments_colon.mpr hv)
          have h₁ := removeFrom_of_isToken (hh.isToken_blank hu hv') hs hbefore z
          have h₂ := removeFrom_of_isToken (hh.isToken_blank hu hv) hs hbefore z
          rw [← hz]
          simp only [List.append_assoc, List.cons_append, List.nil_append] at h₁ h₂ ⊢
          rw [h₁, h₂]
      · have hzero : qualifierLength s before (r ++ [' '] ++ (s ++ (scopeMark ++ y))) = 0 := by
          rcases qualifierLength_eq_zero_or s before (r ++ [' '] ++ (s ++ (scopeMark ++ y))) with
            h | ⟨hbefore, w, hw, hpre, -⟩
          · exact h
          · exact absurd ⟨hbefore, w, hw, by simpa using hpre⟩ htoken
        have hzero' : qualifierLength s before
            (r ++ [' '] ++ (scopeMark ++ (s ++ (scopeMark ++ y)))) = 0 := by
          rcases qualifierLength_eq_zero_or s before
            (r ++ [' '] ++ (scopeMark ++ (s ++ (scopeMark ++ y)))) with
            h | ⟨hbefore, w, hw, hpre, -⟩
          · exact h
          · have hfound := exists_token_of_scopeMark hs ⟨w, hw, by simpa using hpre⟩
            exact absurd ⟨hbefore, hfound⟩ htoken
        obtain ⟨c, x, hcx, hx⟩ := exists_concat_blank_eq_cons r
        rw [hcx] at hn hzero hzero' ⊢
        rw [List.cons_append] at hzero hzero'
        rw [List.cons_append, List.cons_append, removeFrom_of_eq_zero hzero,
          removeFrom_of_eq_zero hzero', ih x.length (by simp [← hn]) hx rfl]

/-- Below its first scope, a function is displayed as it is without a mark in front of its name. -/
theorem removeQualifier_functionText_scopeMark (hs : IsWord s) (scopes : List Text) (f r ps : Text)
    (rooted : Bool) :
    removeQualifier s (functionText r (writtenName rooted (s :: scopes) f) ps) =
      removeQualifier s (functionText r (qualified (s :: scopes) f) ps) := by
  have htext : functionText r (qualified (s :: scopes) f) ps =
      (r ++ [' ']) ++ (s ++ (scopeMark ++ (qualified scopes f ++ '(' :: (ps ++ [')'])))) := by
    simp [functionText, qualified_cons, scopeMark]
  have hrooted : functionText r (scopeMark ++ qualified (s :: scopes) f) ps = (r ++ [' ']) ++
      (scopeMark ++ (s ++ (scopeMark ++ (qualified scopes f ++ '(' :: (ps ++ [')']))))) := by
    simp [functionText, qualified_cons, scopeMark]
  cases rooted with
  | false => rfl
  | true =>
    show removeQualifier s (functionText r (scopeMark ++ qualified (s :: scopes) f) ps) = _
    rw [htext, hrooted]
    exact removeFrom_scopeMark hs (.inr ⟨r, rfl⟩) _

/-! ### What stays -/

/-- A qualifier ends in a colon, so another last character stays the last. -/
theorem exists_removeFrom_concat (hc : c ≠ ':') (s : Text) (before : Option Char) (x : Text) :
    ∃ z, removeFrom (qualifierLength s) before (x ++ [c]) = z ++ [c] := by
  induction hn : x.length using Nat.strong_induction_on generalizing x before with
  | _ n ih =>
    rcases qualifierLength_eq_zero_or s before (x ++ [c]) with hzero | ⟨hbefore, w, hw, hpre, hlen⟩
    · cases x with
      | nil => exact ⟨[], removeFrom_of_eq_zero hzero⟩
      | cons d x =>
        obtain ⟨z, hz⟩ := ih x.length (by simp [← hn]) (some d) x rfl
        rw [List.cons_append] at hzero
        exact ⟨d :: z, by rw [List.cons_append, removeFrom_of_eq_zero hzero, hz]; rfl⟩
    · obtain ⟨x, rfl⟩ := hw.isPrefix_of_concat hc hpre
      have hpos : 0 < w.length := List.length_pos_iff.mpr hw.ne_nil
      rw [List.append_assoc] at hlen ⊢
      rw [removeFrom_of_eq_length hw.ne_nil hlen]
      rw [List.length_append] at hn
      exact ih x.length (by omega) _ x rfl

theorem exists_removeQualifiers_concat (hc : c ≠ ':') (chain : List Text) (x : Text) :
    ∃ z, removeQualifiers chain (x ++ [c]) = z ++ [c] := by
  induction chain generalizing x with
  | nil => exact ⟨x, rfl⟩
  | cons s chain ih =>
    obtain ⟨z, hz⟩ := exists_removeFrom_concat hc s none x
    have hfirst : removeQualifier s (x ++ [c]) = z ++ [c] := hz
    rw [removeQualifiers_cons, hfirst]
    exact ih z

end Scope

/-! ### Minimal forms -/

/-- The first character that is not blank is kept. -/
theorem minimalForm_concat_ne_nil {c : Char} (hc : isBlank c = false) (x : Text) :
    minimalForm (x ++ [c]) ≠ [] := by
  have htrim : (x ++ [c]).trimStart = x.trimStart ++ [c] := Text.trimStart_append_cons hc
  obtain ⟨d, u, hd⟩ := List.exists_cons_of_ne_nil (l := (x ++ [c]).trimStart) (by simp [htrim])
  have hblank := Text.isBlank_eq_false_of_trimStart hd
  have hspace : d ≠ ' ' := by
    rintro rfl
    exact absurd hblank (by decide)
  have hfirst : ∀ after, d ∈ (({} : Minimal.State).next d after).kept := by
    intro after
    by_cases hdel : d ∈ Minimal.State.delimiters
    · exact Minimal.State.mem_kept_delimiter rfl rfl hdel after
    · rw [Minimal.State.next_of_plain rfl rfl hdel (.inl (by decide))]
      simp
  have hmem : d ∈ minimalForm (x ++ [c]) := by
    rw [minimalForm, Text.collapse_eq_squeeze, hd, Text.squeeze_cons hblank, List.mem_reverse]
    exact Minimal.State.mem_kept_run hspace (hfirst _) _
  exact List.ne_nil_of_mem hmem

theorem Text.count_squeeze {c : Char} (hc : isBlank c = false) (gap : Bool) (t : Text) :
    (squeeze gap t).count c = t.count c := by
  have hspace : ' ' ≠ c := by
    rintro rfl
    exact absurd hc (by decide)
  induction t generalizing gap with
  | nil => rfl
  | cons d t ih =>
    cases hd : isBlank d with
    | true =>
      have hne : d ≠ c := by
        rintro rfl
        exact absurd (hd.symm.trans hc) (by simp)
      rw [squeeze_blank hd, ih, List.count_cons_of_ne hne]
    | false =>
      rw [squeeze_cons hd, List.count_append, ih]
      cases gap <;> simp [List.count_cons, hspace, Nat.add_comm]

theorem Text.count_collapse {c : Char} (hc : isBlank c = false) (t : Text) :
    (collapse t).count c = t.count c := by
  have hindent : (indent t).count c = 0 := by
    rw [List.count_eq_zero]
    intro hmem
    exact absurd ((List.mem_takeWhile_imp hmem).symm.trans hc) (by simp)
  rw [collapse_eq_squeeze, count_squeeze hc]
  conv_rhs => rw [← indent_append_trimStart t, List.count_append, hindent, Nat.zero_add]

/-- A minimal form begins with the text in front of the parameter list. -/
theorem exists_minimalForm_open {front : Text}
    (hfront : ∀ c ∈ front, c ∉ Minimal.State.delimiters) (y : Text) :
    ∃ z rest, minimalForm (front ++ '(' :: y) = z ++ '(' :: rest ∧ '(' ∉ z ∧
      z.count ':' = front.count ':' := by
  obtain ⟨z, hz⟩ := exists_collapse_open front
  have hsuffix : '(' :: z.reverse <:+
      ((Minimal.State.inList ('(' :: z.reverse) (some '(')).run (Text.squeeze false y)).kept :=
    Minimal.State.suffix_kept_run (by decide) (List.suffix_refl _) _
  obtain ⟨rest, hrest⟩ := hsuffix
  have hcount : ∀ c, isBlank c = false → (z ++ ['(']).count c = (front ++ ['(']).count c :=
    fun c hc => by rw [← hz, Text.count_collapse hc]
  refine ⟨z, rest.reverse, ?_, ?_, ?_⟩
  · rw [minimalForm, run_collapse_open hfront hz, ← hrest]
    simp
  · have hopen : front.count '(' = 0 :=
      List.count_eq_zero.mpr fun hmem => hfront _ hmem (by decide)
    have := hcount '(' (by decide)
    rw [List.count_append, List.count_append, hopen] at this
    exact List.count_eq_zero.mp (by omega)
  · have := hcount ':' (by decide)
    rwa [List.count_append, List.count_append, Nat.add_right_cancel_iff] at this

/-- Colons in front of the parameter list show in the minimal form. -/
theorem minimalForm_ne_of_count {front front' : Text}
    (hfront : ∀ c ∈ front, c ∉ Minimal.State.delimiters)
    (hfront' : ∀ c ∈ front', c ∉ Minimal.State.delimiters)
    (hcount : front.count ':' ≠ front'.count ':') (y : Text) :
    minimalForm (front ++ '(' :: y) ≠ minimalForm (front' ++ '(' :: y) := by
  obtain ⟨z, rest, hz, hopen, hcolons⟩ := exists_minimalForm_open hfront y
  obtain ⟨z', rest', hz', hopen', hcolons'⟩ := exists_minimalForm_open hfront' y
  intro h
  rw [hz, hz'] at h
  obtain ⟨r, rfl, hr⟩ := Scope.exists_of_append_eq_append_cons hopen h
  cases r with
  | nil =>
    rw [List.append_nil] at hcolons'
    exact hcount (hcolons.symm.trans hcolons')
  | cons c r =>
    obtain ⟨rfl, -⟩ := List.cons.inj hr
    simp at hopen'

/-- The mark in front of a name at the top level shows in the minimal form. -/
theorem minimalForm_scopeMark_ne {f r : Text} (hf : IsWord f)
    (hr : ∀ c ∈ r, c ∉ Minimal.State.delimiters) (ps : Text) :
    minimalForm (functionText r (writtenName true [] f) ps) ≠
      minimalForm (functionText r (writtenName false [] f) ps) := by
  have hfront : ∀ mark : Text, (∀ c ∈ mark, c = ':') →
      ∀ c ∈ r ++ ' ' :: (mark ++ f), c ∉ Minimal.State.delimiters := by
    intro mark hmark c hc hdel
    have hword : ∀ c ∈ Minimal.State.delimiters, isWordChar c = false :=
      List.forall_iff_forall_mem.mp (by decide)
    simp only [List.mem_append, List.mem_cons] at hc
    rcases hc with hc | rfl | hc | hc
    · exact hr c hc hdel
    · exact absurd hdel (by decide)
    · obtain rfl := hmark c hc
      exact absurd hdel (by decide)
    · exact hf.not_mem (hword c hdel) hc
  have hrooted : writtenName true [] f = scopeMark ++ f :=
    congrArg (scopeMark ++ ·) (qualified_nil f)
  have hplain : writtenName false [] f = [] ++ f := qualified_nil f
  rw [functionText_eq, functionText_eq, hrooted, hplain]
  refine minimalForm_ne_of_count (hfront scopeMark (List.forall_iff_forall_mem.mp (by decide)))
    (hfront [] (by simp)) ?_ _
  simp only [scopeMark, List.count_append, List.count_cons, List.nil_append]
  simp

/-! ### Placements -/

/-- The item is a function with the scopes in front of its name, and without directives. -/
structure Item.Declares (x : Item) (rooted : Bool) (scopes : List Text) (f r ps : Text) :
    Prop where
  directives : x.directives = []
  kind : x.kind = some .function
  name : x.qualifiedName = some (writtenName rooted scopes f)
  display : x.display = some (functionText r (writtenName rooted scopes f) ps)

namespace Tree

variable {t : Tree} {p : Position} {scopes : List Text} {f r ps : Text} {rooted : Bool}
  {x y item : Item} {k k' : Text}

/-- With a mark or without one, a name leads from the root to where its scopes do. -/
theorem resolve_writtenName (hkeys : t.KeysAlong p scopes)
    (hscopes : ∀ s ∈ scopes, IsWord s ∧ s ≠ Operator.keyword) (hf : IsWord f)
    (hname : item.qualifiedName = some (writtenName rooted scopes f)) :
    t.resolve [] item = .ok p := by
  let plain : Item := { qualifiedName := some (writtenName false scopes f) }
  have hplain : t.resolve [] plain = .ok p :=
    resolve_qualified_eq_ok hkeys (fun s hs => (hscopes s hs).1.1)
      (fun s hs => Scope.readsBack_of_isWord (hscopes s hs).1 (hscopes s hs).2) hf rfl
  have hcolon : ':' ∉ f := hf.not_mem isWordChar_colon
  have hwritten : plain.qualifiedName = some (writtenName false scopes f) := rfl
  rw [resolve_eq_ok_iff_scopeWalk, scopes_of_writtenName hwritten hscopes hf.1 hcolon] at hplain
  rw [resolve_eq_ok_iff_scopeWalk, scopes_of_writtenName hname hscopes hf.1 hcolon]
  cases rooted with
  | false => exact hplain
  | true => exact .restart hplain

/-- A function is placed from the root where its scopes lead. -/
theorem place_declares (hkeys : t.KeysAlong p scopes)
    (hscopes : ∀ s ∈ scopes, IsWord s ∧ s ≠ Operator.keyword) (hf : IsWord f)
    (hitem : item.Declares rooted scopes f r ps) :
    ∃ placed x, t.place none item = .ok placed ∧ placed.tree = (t.insert p x).1 ∧
      placed.position = (t.insert p x).2 ∧ x.isFunction = true ∧
      x.minimal = some (minimalForm (Scope.removeQualifiers (t.namesAlong p)
        (functionText r (writtenName rooted scopes f) ps))) := by
  have hresolve : ∀ item' : Item, item'.qualifiedName = some (writtenName rooted scopes f) →
      t.resolve ((none : Cursor).getD []) item' = .ok p :=
    fun _ hname => resolve_writtenName hkeys hscopes hf hname
  obtain ⟨placed, x, hplace, htree, hposition, hfun, -, hmin⟩ :=
    place_function hitem.directives rfl hitem.kind hitem.name
      (writtenName_ne_nil rooted scopes hf.1) hitem.display hresolve
  exact ⟨placed, x, hplace, htree, hposition, hfun, hmin⟩

/-- A function is registered, as something of its form is left. -/
theorem registeredKey_of_functionText {name : Text} (chain : List Text)
    (hfun : x.isFunction = true)
    (hmin : x.minimal =
      some (minimalForm (Scope.removeQualifiers chain (functionText r name ps)))) :
    registeredKey x =
      some (minimalForm (Scope.removeQualifiers chain (functionText r name ps))) := by
  refine registeredKey_of_minimal hfun hmin ?_
  have htext : functionText r name ps = (r ++ ' ' :: (name ++ '(' :: ps)) ++ [')'] := by
    simp [functionText]
  obtain ⟨z, hz⟩ := Scope.exists_removeQualifiers_concat (c := ')') (by decide) chain
    (r ++ ' ' :: (name ++ '(' :: ps))
  rw [htext, hz]
  exact minimalForm_concat_ne_nil (by decide) z

/-- A function goes to the node of one of the same form that was placed before it. -/
theorem insert_insert_eq {node : Tree} (hnode : t.get? p = some node) (hxfun : x.isFunction = true)
    (hx : registeredKey x = some k) (hy : registeredKey y = some k) (hmin : y.minimal = x.minimal) :
    ((t.insert p x).1.insert p y).2 = (t.insert p x).2 := by
  have hfirst : (t.insert p x).1.get? p = some (node.accept x).1 := by
    simp only [insert, hnode]
    rw [get?_modify_self, hnode]
    rfl
  have hsecond : ((t.insert p x).1.insert p y).2 = p ++ [((node.accept x).1.accept y).2] := by
    rw [insert, hfirst]
  have hplace : (t.insert p x).2 = p ++ [(node.accept x).2] := by
    rw [insert, hnode]
  rw [hsecond, hplace, accept_accept hxfun hx hy hmin]

theorem namesAlong_modify {g : Tree → Tree} (hg : ∀ n, (g n).entry = n.entry) (t : Tree)
    (p : Position) : (t.modify g p).namesAlong p = t.namesAlong p := by
  induction p generalizing t with
  | nil => rfl
  | cons i p ih =>
    simp only [modify, namesAlong, List.getElem?_modify]
    cases hc : t.children[i]? with
    | none => rfl
    | some c =>
      have hitem : (c.modify g p).item = c.item := congrArg Entry.item (entry_modify hg c p)
      simp [hitem, ih]

end Tree

namespace Session

variable {p : Position} {scopes : List Text} {f r ps : Text} {rooted rooted' : Bool} {a b : Item}

/-- The names along a way that begins with the key `s` begin with the name `s`. -/
theorem exists_namesAlong_eq (actions : List Action) {s : Text} {p : Position}
    (hkeys : (run actions).tree.KeysAlong p (s :: scopes)) (hs : IsWord s)
    (hkey : s ≠ Operator.keyword) : ∃ chain, (run actions).tree.namesAlong p = s :: chain := by
  cases p with
  | nil => exact absurd hkeys (fun h => h)
  | cons i p =>
    obtain ⟨hindex, -⟩ := hkeys
    obtain ⟨c, hc, hname⟩ := name_of_scopeIndex? actions hindex hs hkey
    obtain ⟨d, u, rfl⟩ := List.exists_cons_of_ne_nil hs.1
    exact ⟨c.namesAlong p, by simp only [Tree.namesAlong, hc, hname]⟩

/-- **When a leading `::` makes no difference.**  In a session, place a function from the root, and
then the same function with a leading `::` in front of its scopes, or without the one it had.  If it
has scopes, and they are found, both go to one node.  At the top level, where no brackets and quotes
stand in the result type, they go to two. -/
theorem place_scopeMark (actions : List Action) (hkeys : (run actions).tree.KeysAlong p scopes)
    (hscopes : ∀ s ∈ scopes, IsWord s ∧ s ≠ Operator.keyword) (hf : IsWord f)
    (ha : a.Declares rooted scopes f r ps) (hb : b.Declares rooted' scopes f r ps) :
    ∃ first second, (run actions).tree.place none a = .ok first ∧
      first.tree.place none b = .ok second ∧
      (scopes ≠ [] ∨ rooted = rooted' → second.position = first.position) ∧
      (scopes = [] → rooted ≠ rooted' → (∀ c ∈ r, c ∉ Minimal.State.delimiters) →
        second.position ≠ first.position) := by
  set t := (run actions).tree
  obtain ⟨node, hnode⟩ := Tree.exists_get?_of_keysAlong hkeys
  obtain ⟨first, x, hplace, htree, hposition, hxfun, hxmin⟩ :=
    Tree.place_declares hkeys hscopes hf ha
  have hinsert : (t.insert p x).1 = t.modify (fun m => (m.accept x).1) p := by
    simp [Tree.insert, hnode]
  -- the way to the scope is as before
  have hkeys' : first.tree.KeysAlong p scopes := by
    rw [htree, hinsert]
    exact Tree.keysAlong_modify (fun m => Tree.entry_accept m x) hkeys
  have hnames : first.tree.namesAlong p = t.namesAlong p := by
    rw [htree, hinsert]
    exact Tree.namesAlong_modify (fun m => Tree.entry_accept m x) t p
  obtain ⟨second, y, hplace', htree', hposition', hyfun, hymin⟩ :=
    Tree.place_declares hkeys' hscopes hf hb
  rw [hnames] at hymin
  have hxkey := Tree.registeredKey_of_functionText (t.namesAlong p) hxfun hxmin
  have hykey := Tree.registeredKey_of_functionText (t.namesAlong p) hyfun hymin
  refine ⟨first, second, hplace, hplace', ?_, ?_⟩
  · intro hsame
    have hform : Scope.removeQualifiers (t.namesAlong p)
        (functionText r (writtenName rooted' scopes f) ps) =
          Scope.removeQualifiers (t.namesAlong p)
            (functionText r (writtenName rooted scopes f) ps) := by
      cases scopes with
      | nil => rw [hsame.resolve_left fun h => h rfl]
      | cons s scopes =>
        obtain ⟨hs, hkey⟩ := hscopes s (by simp)
        obtain ⟨chain, hchain⟩ := exists_namesAlong_eq actions hkeys hs hkey
        rw [hchain, Scope.removeQualifiers_cons, Scope.removeQualifiers_cons,
          Scope.removeQualifier_functionText_scopeMark hs,
          Scope.removeQualifier_functionText_scopeMark hs]
    rw [hform] at hymin hykey
    rw [hposition, hposition', htree]
    exact Tree.insert_insert_eq hnode hxfun hxkey hykey (hymin.trans hxmin.symm)
  · rintro rfl hmarks hr
    obtain rfl : p = [] := by
      cases p with
      | nil => rfl
      | cons i p => exact absurd hkeys (fun h => h)
    have hform : minimalForm (functionText r (writtenName rooted' [] f) ps) ≠
        minimalForm (functionText r (writtenName rooted [] f) ps) := by
      cases rooted <;> cases rooted' <;> simp only [ne_eq, not_true_eq_false] at hmarks
      · exact minimalForm_scopeMark_ne hf hr ps
      · exact (minimalForm_scopeMark_ne hf hr ps).symm
    obtain ⟨i, hi, hholds⟩ := Tree.exists_holdsKey_insert hnode hxkey
    rw [hposition, hposition', hi, htree]
    exact hholds.insert_ne hykey hform

/-- A member of the class inside the namespace, with the namespace in its result type. -/
def copyMember (rooted : Bool) : Item :=
  ({} : Item).declare (functionText "std::vector<Zoo<int>, Zoo::Cat>".toList
    (writtenName rooted ["Zoo".toList, "Cat".toList] "copy".toList) "const Zoo::Cat& cat".toList)

/-- The member is one node. -/
theorem place_copyMember :
    (run nestedClass).tree.find [] "Zoo.Cat".toList = .ok [0, 1] ∧
      ∃ first second, (run nestedClass).tree.place none (copyMember false) = .ok first ∧
        first.tree.place none (copyMember true) = .ok second ∧
        second.position = first.position := by
  have hfind : (run nestedClass).tree.find [] "Zoo.Cat".toList = .ok [0, 1] := by decide +kernel
  have hkeys : (run nestedClass).tree.KeysAlong [0, 1] ["Zoo".toList, "Cat".toList] :=
    (Tree.find_eq_ok_iff_keysAlong.mp hfind).2
  have hdeclares : ∀ rooted : Bool, (copyMember rooted).Declares rooted
      ["Zoo".toList, "Cat".toList] "copy".toList "std::vector<Zoo<int>, Zoo::Cat>".toList
      "const Zoo::Cat& cat".toList := by
    intro rooted
    cases rooted <;> exact ⟨rfl, by decide +kernel, by decide +kernel, by decide +kernel⟩
  obtain ⟨first, second, hplace, hplace', hsame, -⟩ :=
    place_scopeMark nestedClass hkeys (by decide) (by decide) (hdeclares false) (hdeclares true)
  exact ⟨hfind, first, second, hplace, hplace', hsame (.inl (by simp))⟩

/-- A function at the top level that is declared twice, once with a leading `::`, is two nodes, with
one name. -/
theorem place_rootFunction :
    let function := fun rooted => ({} : Item).declare
      (functionText "int".toList (writtenName rooted [] "f".toList) "int x".toList)
    (function true).declaration = some "int ::f(int x)".toList ∧
      (Tree.empty.placeEach [(none, function false), (none, function true)]).toOption.map
        (fun t => t.entries.map fun e => (e.item.name, e.key)) =
      some [(some "f".toList, some "int f(int x)".toList),
        (some "f".toList, some "int ::f(int x)".toList)] := by
  decide +kernel

end Session

end DocTree
