/-
A declaration and its definition.

A function is often declared inside its scope, with default arguments, and defined outside
of it, with its scopes in front of the name.  Both come to one node
(`Tree.place_declaration_definition`):

* the definition leads to the scope that the declaration was placed in;
* below that scope, their display forms differ in the default arguments only
  (`removeQualifiers_functionText`), so their minimal forms are the same;
* an item with the minimal form of a function that has just been placed merges with it
  (`Tree.accept_accept`).
-/
import DocTree.Proofs.FunctionText
import DocTree.Proofs.ScopeResolution

namespace DocTree

/-! ### A second item of the same minimal form -/

namespace Tree

variable {t : Tree} {x y : Item} {k : Text} {p : Position} {names : List Text}

/-- A function that has been accepted is found under its minimal form. -/
theorem exists_child?_accept (hfun : x.isFunction = true) (hx : registeredKey x = some k) :
    ∃ c, (t.accept x).1.child? k = some ((t.accept x).2, c) ∧ c.item.minimal = x.minimal := by
  rcases accept_cases t x with ⟨i, c, k', hk', hchild, hform, heq⟩ | ⟨hfree, heq⟩
  · obtain rfl := Option.some.inj (hx.symm.trans hk')
    obtain ⟨hi, hkey, hfirst⟩ := child?_eq_some.mp hchild
    refine ⟨c.mergeItem x, ?_, Item.minimal_merge_of_eq (hform hfun)⟩
    rw [heq]
    refine child?_eq_some.mpr ⟨by simp [modify, hi], hkey, fun j hj d hd => ?_⟩
    have hij : i ≠ j := by omega
    simp only [modify, List.getElem?_modify, hij, if_false] at hd
    exact hfirst j hj d (by simpa using hd)
  · refine ⟨{ item := x, key := registeredKey x }, ?_, rfl⟩
    rw [heq]
    refine child?_eq_some.mpr ⟨by simp [append], hx, fun j hj d hd hkey => ?_⟩
    -- all earlier children have given up the key
    have hentry := getElem?_entries_of_child hd
    rw [entries_append] at hentry
    rcases getElem?_concat_cases hentry with ⟨e, -, he⟩ | ⟨hlast, -⟩
    · have hreleased : (e.release (registeredKey x)).key = some k := he ▸ hkey
      exact (Entry.key_release_eq_some.mp hreleased).2 hx
    · rw [entries, List.length_map] at hlast
      have : j < t.children.length := hj
      omega

/-- A function that comes after one of the same minimal form merges with it. -/
theorem accept_accept (hxfun : x.isFunction = true) (hx : registeredKey x = some k)
    (hy : registeredKey y = some k) (hmin : y.minimal = x.minimal) :
    (t.accept x).1.accept y =
      ((t.accept x).1.modify (·.mergeItem y) [(t.accept x).2], (t.accept x).2) := by
  obtain ⟨c, hchild, hc⟩ := exists_child?_accept (t := t) hxfun hx
  have harrival : (t.accept x).1.arrival y = .merged (t.accept x).2 := by
    simp [arrival, hy, hchild, hc, hmin]
  rw [accept, harrival]

/-! ### The way to a node that changes -/

theorem modify_append (f : Tree → Tree) (t : Tree) (p q : Position) :
    t.modify f (p ++ q) = t.modify (fun n => n.modify f q) p := by
  induction p generalizing t with
  | nil => rfl
  | cons i p ih =>
    rw [List.cons_append, modify, modify]
    congr 2
    funext c
    exact ih c

/-- Only what becomes of the node at the position matters. -/
theorem modify_congr {f f' : Tree → Tree} {n : Tree} (hn : t.get? p = some n) (hf : f n = f' n) :
    t.modify f p = t.modify f' p := by
  induction p generalizing t with
  | nil =>
    obtain rfl := Option.some.inj hn
    exact hf
  | cons i p ih =>
    rw [modify, modify]
    congr 1
    apply List.ext_getElem?
    intro j
    simp only [List.getElem?_modify]
    by_cases hij : i = j
    · subst hij
      cases hc : t.children[i]? with
      | none => rfl
      | some c =>
        rw [get?, hc] at hn
        simp [ih hn]
    · simp [hij]

theorem keysAlong_modify {f : Tree → Tree} (hf : ∀ n, (f n).entry = n.entry)
    (h : t.KeysAlong p names) : (t.modify f p).KeysAlong p names := by
  induction p generalizing t names with
  | nil => cases names <;> exact h
  | cons i p ih =>
    cases names with
    | nil => exact h
    | cons n ns =>
      obtain ⟨hindex, c, hc, hrest⟩ := h
      refine ⟨?_, c.modify f p, by simp [modify, hc], ih hrest⟩
      rw [scopeIndex?_eq_some, entries_modify_cons hf, ← scopeIndex?_eq_some]
      exact hindex

theorem scopesAlong_modify {f : Tree → Tree} (hf : ∀ n, (f n).entry = n.entry)
    (h : t.ScopesAlong p names) : (t.modify f p).ScopesAlong p names := by
  induction p generalizing t names with
  | nil => cases names <;> exact h
  | cons i p ih =>
    cases names with
    | nil => exact h
    | cons n ns =>
      obtain ⟨c, hc, hfun, hname, hrest⟩ := h
      have hitem : (c.modify f p).item = c.item := congrArg Entry.item (entry_modify hf c p)
      exact ⟨c.modify f p, by simp [modify, hc], by rw [hitem]; exact hfun,
        by rw [hitem]; exact hname, ih hrest⟩

theorem namesAlong_of_scopesAlong (hnames : ∀ n ∈ names, n ≠ []) (h : t.ScopesAlong p names) :
    t.namesAlong p = names := by
  induction p generalizing t names with
  | nil =>
    cases names with
    | nil => rfl
    | cons n ns => exact absurd h (fun h => h)
  | cons i p ih =>
    cases names with
    | nil => exact absurd h (fun h => h)
    | cons n ns =>
      obtain ⟨c, hc, -, hname, hrest⟩ := h
      obtain ⟨a, u, rfl⟩ := List.exists_cons_of_ne_nil (hnames n (by simp))
      simp only [namesAlong, hc, hname, ih (fun m hm => hnames m (by simp [hm])) hrest]

end Tree

/-! ### The same declaration below its scopes -/

namespace Parameter

/-- Changes the texts of a parameter. -/
def map (f : Text → Text) (p : Parameter) : Parameter := ⟨f p.text, p.value?.map f⟩

/-- A parameter as it can be told from its default value and from its neighbours: trimmed, not
ending in a colon, without brackets, literals, `=`, template arguments and `operator`.  Its
default value is closed, without a backslash, template arguments and `operator`. -/
structure IsPlain (p : Parameter) : Prop where
  ne_nil : p.text ≠ []
  trimmed : p.text.trim = p.text
  plain : ∀ c ∈ p.text, c ∉ Minimal.State.delimiters
  noAssignment : '=' ∉ p.text
  noColon : p.text.getLast? ≠ some ':'
  simple : IsSimple p.text
  value : ∀ d, p.value? = some d → DefaultValue.IsClosed d ∧ '\\' ∉ d ∧ IsSimple d

variable {p : Parameter} {scopes : List Text}

/-- A trimmed text does not end in a blank. -/
theorem IsPlain.exists_eq_concat (hp : p.IsPlain) :
    ∃ x e, p.text = x ++ [e] ∧ isBlank e = false ∧ e ≠ ':' := by
  obtain ⟨x, e, hx⟩ := List.eq_nil_or_concat p.text |>.resolve_left hp.ne_nil
  rw [List.concat_eq_append] at hx
  refine ⟨x, e, hx, Text.isBlank_eq_false_of_trimEnd (hp.trimmed.trans hx), ?_⟩
  rintro rfl
  exact hp.noColon (by rw [hx, List.getLast?_concat])

/-- Below some scopes, a plain parameter still has a default value that leaves no trace. -/
theorem IsPlain.isErasable_map (hp : p.IsPlain) (hscopes : ∀ s ∈ scopes, IsWord s) :
    (p.map (Scope.removeQualifiers scopes)).IsErasable where
  ends := by
    obtain ⟨x, e, hx, he, hcolon⟩ := hp.exists_eq_concat
    refine ⟨Scope.removeQualifiers scopes x, e, ?_, he⟩
    rw [map, hx, Scope.removeQualifiers_concat hcolon (hx ▸ hp.simple.open_not_mem)]
  plain := fun c hc => hp.plain c ((Scope.removeQualifiers_sublist _ _).subset hc)
  noDefault := fun h => hp.noAssignment ((Scope.removeQualifiers_sublist _ _).subset h)
  closed := by
    intro e he
    obtain ⟨d, hd, rfl⟩ := Option.map_eq_some_iff.mp he
    obtain ⟨hclosed, hslash, hsimple⟩ := hp.value d hd
    refine hclosed.of_filter_eq hslash
      (Scope.filter_removeQualifiers hscopes hsimple.open_not_mem ?_)
    -- no sign is part of a qualifier
    have hsigns : ∀ c ∈ DefaultValue.State.signs, Scope.isQualifierChar c = false :=
      List.forall_iff_forall_mem.mp (by decide)
    intro c hc
    rw [Bool.eq_false_iff]
    intro hmem
    rw [hsigns c (by simpa using hmem)] at hc
    exact absurd hc (by simp)

end Parameter

section Removal

variable {scopes : List Text} {r name : Text} {ps : List Text}

theorem removeQualifiers_parameterList (hscopes : ∀ s ∈ scopes, IsWord s)
    (ht : '<' ∉ parameterList ps) :
    Scope.removeQualifiers scopes (parameterList ps) =
      parameterList (ps.map (Scope.removeQualifiers scopes)) := by
  induction ps with
  | nil => exact Scope.removeQualifiers_nil scopes
  | cons p ps ih =>
    cases ps with
    | nil => simp [parameterList, Text.join]
    | cons q ps =>
      rw [parameterList_cons_cons] at ht ⊢
      have hspace : '<' ∉ ' ' :: parameterList (q :: ps) := fun h => ht (by simp at h; simp [h])
      have hrest : '<' ∉ parameterList (q :: ps) := fun h => hspace (by simp [h])
      rw [Scope.removeQualifiers_append_cons hscopes (by decide) ht,
        Scope.removeQualifiers_separator hscopes (by decide) hspace, ih hrest]
      simp only [List.map_cons, parameterList_cons_cons]

theorem removeQualifiers_written {p : Parameter} (hscopes : ∀ s ∈ scopes, IsWord s)
    (ht : '<' ∉ p.written) :
    Scope.removeQualifiers scopes p.written =
      (p.map (Scope.removeQualifiers scopes)).written := by
  cases hd : p.value? with
  | none => simp [Parameter.written, Parameter.map, hd]
  | some d =>
    have hmark : ∀ u e : Text, u ++ " = ".toList ++ e = u ++ ' ' :: '=' :: ' ' :: e := by simp
    simp only [Parameter.written, Parameter.map, hd, hmark, Option.map_some] at ht ⊢
    have h₁ : '<' ∉ '=' :: ' ' :: d := fun h => ht (by simp at h; simp [h])
    have h₂ : '<' ∉ ' ' :: d := fun h => h₁ (by simp at h; simp [h])
    rw [Scope.removeQualifiers_append_cons hscopes (by decide) ht,
      Scope.removeQualifiers_separator hscopes (by decide) h₁,
      Scope.removeQualifiers_separator hscopes (by decide) h₂]

/-- Qualifiers are removed from each part of a function declaration. -/
theorem removeQualifiers_functionText (hscopes : ∀ s ∈ scopes, IsWord s)
    (ht : '<' ∉ functionText r name (parameterList ps)) :
    Scope.removeQualifiers scopes (functionText r name (parameterList ps)) =
      functionText (Scope.removeQualifiers scopes r) (Scope.removeQualifiers scopes name)
        (parameterList (ps.map (Scope.removeQualifiers scopes))) := by
  unfold functionText at ht ⊢
  have h₁ : '<' ∉ name ++ '(' :: (parameterList ps ++ [')']) := fun h => ht (by simp at h; simp [h])
  have h₂ : '<' ∉ parameterList ps ++ [')'] := fun h => h₁ (by simp at h; simp [h])
  have h₃ : '<' ∉ parameterList ps := fun h => h₂ (by simp [h])
  rw [Scope.removeQualifiers_append_cons hscopes (by decide) ht,
    Scope.removeQualifiers_append_cons hscopes (by decide) h₁,
    Scope.removeQualifiers_append_cons hscopes (by decide) h₂, Scope.removeQualifiers_nil,
    removeQualifiers_parameterList hscopes h₃]

end Removal

/-! ### Signatures -/

/-- What a function is declared with. -/
structure Signature where
  result : Text
  name : Text
  parameters : List Parameter
deriving DecidableEq, Repr

namespace Signature

variable {g : Signature} {scopes : List Text}

/-- The declaration of a function inside its scope. -/
def declaration (g : Signature) : Text :=
  functionText g.result g.name (parameterList (g.parameters.map Parameter.written))

/-- The definition of a function outside its scopes, without default values. -/
def definition (scopes : List Text) (g : Signature) : Text :=
  functionText g.result (qualified scopes g.name) (parameterList (g.parameters.map Parameter.text))

/-- The parts of the signature can be told apart, and its first parameter does not look like a
pointer declarator. -/
structure IsPlain (g : Signature) : Prop where
  result : IsResult g.result
  name : IsWord g.name
  noKeyword : g.name ≠ Operator.keyword
  parameters : ∀ p ∈ g.parameters, p.IsPlain
  start : ∀ p, g.parameters.head? = some p → ∀ c, p.text.head? = some c → c ≠ '*' ∧ c ≠ '&'

end Signature

theorem isSimple_parameterList {ps : List Text} (h : ∀ p ∈ ps, IsSimple p) :
    IsSimple (parameterList ps) := by
  induction ps with
  | nil => exact isSimple_nil
  | cons p ps ih =>
    cases ps with
    | nil => simpa [parameterList, Text.join] using h p (by simp)
    | cons q ps =>
      rw [parameterList_cons_cons]
      refine (isSimple_append_cons (by decide) (by decide)).mpr ⟨h p (by simp), ?_⟩
      refine (isSimple_append_cons (x := []) (by decide) (by decide)).mpr ⟨isSimple_nil, ?_⟩
      exact ih fun r hr => h r (by simp [hr])

theorem Parameter.IsPlain.isSimple_written {p : Parameter} (hp : p.IsPlain) :
    IsSimple p.written := by
  cases hd : p.value? with
  | none =>
    rw [Parameter.written, hd]
    exact hp.simple
  | some d =>
    have hmark :
        p.text ++ " = ".toList ++ d = p.text ++ ' ' :: ([] ++ '=' :: ([] ++ ' ' :: d)) := by
      simp
    rw [Parameter.written, hd]
    simp only [hmark, isSimple_append_cons (c := ' ') (by decide) (by decide),
      isSimple_append_cons (c := '=') (by decide) (by decide)]
    exact ⟨hp.simple, isSimple_nil, isSimple_nil, (hp.value d hd).2.2⟩

/-- A parameter list begins as its first parameter. -/
theorem exists_parameterList_cons (p : Text) (ps : List Text) :
    ∃ rest, parameterList (p :: ps) = p ++ rest := by
  cases ps with
  | nil => exact ⟨[], by simp [parameterList, Text.join]⟩
  | cons q ps => exact ⟨_, parameterList_cons_cons p q ps⟩

namespace Signature

variable {g : Signature} {scopes : List Text}

/-- However its parameters are written, the list does not begin with a pointer mark. -/
theorem IsPlain.startsPlain (hg : g.IsPlain) {write : Parameter → Text}
    (hwrite : ∀ p, ∃ rest, write p = p.text ++ rest) :
    Identifier.StartsPlain (parameterList (g.parameters.map write) ++ [')']) := by
  have hhead : ∀ {c : Char} {u : Text}, isBlank c = false → c ≠ '*' ∧ c ≠ '&' →
      Identifier.StartsPlain (c :: u) := by
    intro c u hc hne d hd
    rw [Text.trimStart, List.dropWhile_cons_of_neg (by simp [hc])] at hd
    exact (Option.some.inj hd) ▸ hne
  cases hps : g.parameters with
  | nil => exact hhead (by decide) (by decide)
  | cons p ps =>
    have hp := hg.parameters p (by simp [hps])
    obtain ⟨c, u, hcu⟩ := List.exists_cons_of_ne_nil hp.ne_nil
    obtain ⟨rest, hrest⟩ := exists_parameterList_cons (write p) (ps.map write)
    obtain ⟨more, hmore⟩ := hwrite p
    rw [List.map_cons, hrest, hmore, hcu]
    refine hhead (Text.isBlank_eq_false_of_trim (hp.trimmed.trans hcu)) ?_
    exact hg.start p (by simp [hps]) c (by simp [hcu])

theorem isName_qualified {f : Text} (hscopes : ∀ s ∈ scopes, IsWord s)
    (hkeyword : ∀ s ∈ scopes, s ≠ Operator.keyword) (hf : IsWord f) (hfk : f ≠ Operator.keyword) :
    Identifier.IsName (qualified scopes f) where
  ne_nil := Scope.qualified_ne_nil hf
  chars := Scope.isQualifierChar_of_mem_qualified hscopes hf
  keyword := by
    have hqualifier : Operator.find? (Scope.qualifier scopes) = none :=
      Scope.find?_qualifier_eq_none.mpr fun s hs =>
        (Scope.readsBack_of_isWord (hscopes s hs) (hkeyword s hs)).keyword
    rw [Scope.find?_qualified, hqualifier, (Scope.readsBack_of_isWord hf hfk).keyword]
    rfl

theorem IsPlain.isName (hg : g.IsPlain) : Identifier.IsName g.name := by
  rw [← qualified_nil g.name]
  exact isName_qualified (by simp) (by simp) hg.name hg.noKeyword

theorem IsPlain.isSimple_written (hg : g.IsPlain) :
    IsSimple (parameterList (g.parameters.map Parameter.written)) := by
  refine isSimple_parameterList fun w hw => ?_
  obtain ⟨p, hp, rfl⟩ := List.mem_map.mp hw
  exact (hg.parameters p hp).isSimple_written

theorem IsPlain.isSimple_text (hg : g.IsPlain) :
    IsSimple (parameterList (g.parameters.map Parameter.text)) := by
  refine isSimple_parameterList fun w hw => ?_
  obtain ⟨p, hp, rfl⟩ := List.mem_map.mp hw
  exact (hg.parameters p hp).simple

theorem IsPlain.identifier_declaration (hg : g.IsPlain) :
    Identifier.ofDeclaration g.declaration = g.name := by
  refine Identifier.ofDeclaration_function hg.result hg.isName hg.isSimple_written
    (hg.startsPlain fun p => ?_)
  cases hd : p.value? with
  | none => exact ⟨[], by simp [Parameter.written, hd]⟩
  | some d => exact ⟨" = ".toList ++ d, by simp [Parameter.written, hd]⟩

theorem IsPlain.identifier_definition (hg : g.IsPlain) (hscopes : ∀ s ∈ scopes, IsWord s)
    (hkeyword : ∀ s ∈ scopes, s ≠ Operator.keyword) :
    Identifier.ofDeclaration (g.definition scopes) = qualified scopes g.name :=
  Identifier.ofDeclaration_function hg.result
    (isName_qualified hscopes hkeyword hg.name hg.noKeyword) hg.isSimple_text
    (hg.startsPlain fun p => ⟨[], by simp⟩)

/-- Below its scopes, the declaration is what it was, each part without its qualifiers. -/
theorem IsPlain.removeQualifiers_declaration (hg : g.IsPlain) (hscopes : ∀ s ∈ scopes, IsWord s) :
    Scope.removeQualifiers scopes g.declaration =
      functionText (Scope.removeQualifiers scopes g.result) g.name
        (parameterList ((g.parameters.map (Parameter.map (Scope.removeQualifiers scopes))).map
          Parameter.written)) := by
  have hangle :=
    (isSimple_functionText hg.result.simple hg.isName.simple hg.isSimple_written).open_not_mem
  have hname : Scope.removeQualifiers scopes g.name = g.name :=
    Scope.removeQualifiers_of_not_mem (hg.name.not_mem isWordChar_colon)
      (hg.name.not_mem (by decide))
  rw [declaration, removeQualifiers_functionText hscopes hangle, hname, List.map_map, List.map_map]
  congr 2
  refine List.map_congr_left fun p hp => ?_
  exact removeQualifiers_written hscopes (hg.parameters p hp).isSimple_written.open_not_mem

/-- So is the definition, whose name loses its scopes. -/
theorem IsPlain.removeQualifiers_definition (hg : g.IsPlain) (hscopes : ∀ s ∈ scopes, IsWord s)
    (hkeyword : ∀ s ∈ scopes, s ≠ Operator.keyword) :
    Scope.removeQualifiers scopes (g.definition scopes) =
      functionText (Scope.removeQualifiers scopes g.result) g.name
        (parameterList ((g.parameters.map (Parameter.map (Scope.removeQualifiers scopes))).map
          Parameter.text)) := by
  have hangle := (isSimple_functionText hg.result.simple
    (isName_qualified hscopes hkeyword hg.name hg.noKeyword).simple hg.isSimple_text).open_not_mem
  rw [definition, removeQualifiers_functionText hscopes hangle,
    Scope.removeQualifiers_qualified hscopes hg.name, List.map_map, List.map_map]
  rfl

/-- The text in front of the parameter list has no brackets. -/
theorem IsPlain.plain_front (hg : g.IsPlain) :
    ∀ c ∈ Scope.removeQualifiers scopes g.result ++ ' ' :: g.name,
      c ∉ Minimal.State.delimiters := by
  have hword : ∀ d ∈ Minimal.State.delimiters, isWordChar d = false :=
    List.forall_iff_forall_mem.mp (by decide)
  intro c hc hmem
  rcases List.mem_append.mp hc with hc | hc
  · exact hg.result.plain c ((Scope.removeQualifiers_sublist _ _).subset hc) hmem
  · rcases List.mem_cons.mp hc with rfl | hc
    · exact absurd hmem (by decide)
    · exact hg.name.not_mem (hword c hmem) hc

/-- Below the scopes, declaration and definition have the same minimal form. -/
theorem IsPlain.minimalForm_eq (hg : g.IsPlain) (hscopes : ∀ s ∈ scopes, IsWord s)
    (hkeyword : ∀ s ∈ scopes, s ≠ Operator.keyword) :
    minimalForm (Scope.removeQualifiers scopes (g.definition scopes)) =
      minimalForm (Scope.removeQualifiers scopes g.declaration) := by
  have herasable : ∀ p ∈ g.parameters.map (Parameter.map (Scope.removeQualifiers scopes)),
      p.IsErasable := by
    intro q hq
    obtain ⟨p, hp, rfl⟩ := List.mem_map.mp hq
    exact (hg.parameters p hp).isErasable_map hscopes
  rw [hg.removeQualifiers_declaration hscopes, hg.removeQualifiers_definition hscopes hkeyword,
    functionText_eq, functionText_eq, minimalForm_parameterList hg.plain_front herasable []]

theorem IsPlain.minimalForm_ne_nil (hg : g.IsPlain) (hscopes : ∀ s ∈ scopes, IsWord s) :
    minimalForm (Scope.removeQualifiers scopes g.declaration) ≠ [] := by
  rw [hg.removeQualifiers_declaration hscopes, functionText_eq]
  exact DocTree.minimalForm_ne_nil hg.plain_front _

end Signature

/-! ### Placing both -/

namespace Tree

variable {t : Tree} {item : Item} {p : Position} {scopes : List Text} {g : Signature}

/-- Without directives, an item goes where its qualified name leads from the cursor. -/
theorem destination_of_directives_nil {cursor : Cursor} (hdir : item.directives = [])
    (hresolve : t.resolve (cursor.getD []) { item with asIs := false } = .ok p) :
    t.destination cursor item = .ok (p, t.settle p { item with asIs := false }) := by
  have htarget : t.targetOf cursor item = .ok { parent := cursor } := by
    rw [targetOf, hdir]
    rfl
  rw [destination, htarget]
  simp only [bind, Except.bind, hresolve]
  rfl

/-- A function settles with the minimal form of what is displayed below its scopes. -/
theorem settle_function (t : Tree) (p : Position) (item : Item) {name text : Text}
    (hkind : item.kind = some .function) (hname : item.qualifiedName = some name) (hne : name ≠ [])
    (hdisplay : item.display = some text) :
    (t.settle p item).isFunction = true ∧ (t.settle p item).locations = item.locations ∧
      (t.settle p item).minimal =
        some (minimalForm (Scope.removeQualifiers (t.namesAlong p) text)) := by
  have hsome : Text.isNoText item.qualifiedName = false := by
    rw [hname]
    simpa [Text.isNoText] using hne
  simp [settle, hsome, unqualify, hdisplay, Item.isFunction, hkind]

/-- A function without directives is placed where its qualified name leads, under the minimal
form of what is displayed there. -/
theorem place_function {cursor : Cursor} {name text : Text} {places : List Location}
    (hdir : item.directives = []) (hlocations : item.locations = places)
    (hkind : item.kind = some .function) (hname : item.qualifiedName = some name) (hne : name ≠ [])
    (hdisplay : item.display = some text)
    (hresolve : ∀ item' : Item, item'.qualifiedName = some name →
      t.resolve (cursor.getD []) item' = .ok p) :
    ∃ placed x, t.place cursor item = .ok placed ∧ placed.tree = (t.insert p x).1 ∧
      placed.position = (t.insert p x).2 ∧ x.isFunction = true ∧ x.locations = places ∧
      x.minimal = some (minimalForm (Scope.removeQualifiers (t.namesAlong p) text)) := by
  obtain ⟨placed, hplace, htree, hposition⟩ :=
    place_of_destination (destination_of_directives_nil hdir (hresolve _ hname))
  obtain ⟨hfun, hplaces, hmin⟩ :=
    settle_function t p { item with asIs := false } hkind hname hne hdisplay
  exact ⟨placed, _, hplace, htree, hposition, hfun, hplaces.trans hlocations, hmin⟩

/-- What a function declaration says. -/
theorem declare_function (a : Item) {text r name list : Text}
    (htext : text = functionText r name list) (hr : IsResult r)
    (hname : Identifier.ofDeclaration text = name) (hne : name ≠ []) :
    (a.declare text).directives = a.directives ∧ (a.declare text).locations = a.locations ∧
      (a.declare text).kind = some .function ∧ (a.declare text).qualifiedName = some name ∧
      (a.declare text).display = some text := by
  have hkind : Kind.ofDeclaration text = .function := htext ▸ hr.kind
  have hdisplay : Display.ofDeclaration text = text := htext ▸ hr.display
  have hnonempty : name.nonempty? = some name := by
    rw [Text.nonempty?]
    simp [hne]
  simp only [Item.declare, hkind, hdisplay, hname, hnonempty, and_self]

/-- The declaration is placed in the scope that it stands in. -/
theorem place_declaration (t : Tree) (a : Item) (hg : g.IsPlain) (ha : a.directives = [])
    (p : Position) :
    ∃ placed x, t.place (some p) (a.declare g.declaration) = .ok placed ∧
      placed.tree = (t.insert p x).1 ∧ placed.position = (t.insert p x).2 ∧ x.isFunction = true ∧
      x.locations = a.locations ∧
      x.minimal = some (minimalForm (Scope.removeQualifiers (t.namesAlong p) g.declaration)) := by
  obtain ⟨hdir, hlocations, hkind, hname, hdisplay⟩ :=
    declare_function a rfl hg.result hg.identifier_declaration hg.name.1
  have hsplit : Scope.split g.name = [] ++ [g.name] := by
    have h := (Scope.split_qualified [] hg.name).mpr (by simp)
    rwa [qualified_nil] at h
  have hresolve : ∀ item' : Item, item'.qualifiedName = some g.name →
      t.resolve ((some p).getD []) item' = .ok p := by
    intro item' hitem'
    rw [resolve_eq_ok hitem' hg.name.1 hsplit]
    rfl
  exact place_function (hdir.trans ha) hlocations hkind hname hg.name.1 hdisplay hresolve

/-- The definition is placed in the scope that its name leads to. -/
theorem place_definition (b : Item) (hg : g.IsPlain) (hb : b.directives = [])
    (hkeys : t.KeysAlong p scopes) (hwords : ∀ s ∈ scopes, IsWord s)
    (hkeyword : ∀ s ∈ scopes, s ≠ Operator.keyword) :
    ∃ placed x, t.place none (b.declare (g.definition scopes)) = .ok placed ∧
      placed.tree = (t.insert p x).1 ∧ placed.position = (t.insert p x).2 ∧ x.isFunction = true ∧
      x.locations = b.locations ∧
      x.minimal =
        some (minimalForm (Scope.removeQualifiers (t.namesAlong p) (g.definition scopes))) := by
  obtain ⟨hdir, hlocations, hkind, hname, hdisplay⟩ := declare_function b rfl hg.result
    (hg.identifier_definition hwords hkeyword) (Scope.qualified_ne_nil hg.name)
  refine place_function (hdir.trans hb) hlocations hkind hname (Scope.qualified_ne_nil hg.name)
    hdisplay fun item' hitem' => ?_
  exact resolve_qualified_eq_ok hkeys (fun s hs => (hwords s hs).1)
    (fun s hs => Scope.readsBack_of_isWord (hwords s hs) (hkeyword s hs)) hg.name hitem'

/-- **A declaration and its definition become one node.**  Take a scope that is found through
words that are its name and those of the scopes around it, and a plain signature.  The
declaration placed in the scope, and then the definition placed from the root, with the scopes
in front of the name and without default values, come to the same child of the scope: the
definition merges with the declaration, and nothing else changes. -/
theorem place_declaration_definition (t : Tree) (a b : Item) (hkeys : t.KeysAlong p scopes)
    (hscopes : t.ScopesAlong p scopes) (hwords : ∀ s ∈ scopes, IsWord s)
    (hkeyword : ∀ s ∈ scopes, s ≠ Operator.keyword) (hg : g.IsPlain) (ha : a.directives = [])
    (hb : b.directives = []) :
    ∃ first second i node x,
      t.place (some p) (a.declare g.declaration) = .ok first ∧
      first.tree.place none (b.declare (g.definition scopes)) = .ok second ∧
      first.position = p ++ [i] ∧ second.position = p ++ [i] ∧
      first.tree.get? (p ++ [i]) = some node ∧
      second.tree = first.tree.modify (·.mergeItem x) (p ++ [i]) ∧ x.locations = b.locations := by
  have hnames : ∀ s ∈ scopes, s ≠ [] := fun s hs => (hwords s hs).1
  obtain ⟨n, hn⟩ := exists_get?_of_keysAlong hkeys
  obtain ⟨first, x, hplace₁, htree₁, hposition₁, hfun₁, -, hmin₁⟩ := place_declaration t a hg ha p
  have hinsert₁ : t.insert p x =
      (t.modify (fun m => (m.accept x).1) p, p ++ [(n.accept x).2]) := by
    simp [insert, hn]
  rw [hinsert₁] at htree₁ hposition₁
  -- the way to the scope is as before
  have hkeys₂ : first.tree.KeysAlong p scopes :=
    htree₁ ▸ keysAlong_modify (fun m => entry_accept m x) hkeys
  have hscopes₂ : first.tree.ScopesAlong p scopes :=
    htree₁ ▸ scopesAlong_modify (fun m => entry_accept m x) hscopes
  have hn₂ : first.tree.get? p = some (n.accept x).1 := by
    rw [htree₁, get?_modify_self, hn]
    rfl
  obtain ⟨second, y, hplace₂, htree₂, hposition₂, hfun₂, hlocations, hmin₂⟩ :=
    place_definition b hg hb hkeys₂ hwords hkeyword
  have hinsert₂ : first.tree.insert p y =
      (first.tree.modify (fun m => (m.accept y).1) p, p ++ [((n.accept x).1.accept y).2]) := by
    simp [insert, hn₂]
  rw [hinsert₂] at htree₂ hposition₂
  -- both have the same minimal form below the scope
  rw [namesAlong_of_scopesAlong hnames hscopes] at hmin₁
  rw [namesAlong_of_scopesAlong hnames hscopes₂, hg.minimalForm_eq hwords hkeyword] at hmin₂
  have hne := hg.minimalForm_ne_nil hwords
  have haccept := accept_accept (t := n) hfun₁ (registeredKey_of_minimal hfun₁ hmin₁ hne)
    (registeredKey_of_minimal hfun₂ hmin₂ hne) (hmin₂.trans hmin₁.symm)
  obtain ⟨c, hchild, -⟩ := exists_child?_accept (t := n) hfun₁
    (registeredKey_of_minimal hfun₁ hmin₁ hne)
  refine ⟨first, second, (n.accept x).2, c, y, hplace₁, hplace₂, hposition₁, ?_, ?_, ?_, hlocations⟩
  · rw [hposition₂, haccept]
  · rw [get?_append, hn₂, Option.bind_some, get?, (child?_eq_some.mp hchild).1]
    exact get?_nil c
  · rw [htree₂, modify_append]
    exact modify_congr hn₂ (congrArg Prod.fst haccept)

end Tree

/-- A namespace, and in it a class of the same name. -/
def zooInZoo : Tree :=
  (Session.run [.read "zoo.h".toList
    ["//!> The outer scope.".toList, "namespace Zoo".toList, "\x7b".toList,
      "//!> The inner scope.".toList, "class Zoo".toList, "\x7b".toList]]).tree

/-- A function whose types name the scopes too, with a default value that has a comma. -/
def feedSignature : Signature where
  result := "static Zoo::Food *".toList
  name := "feed".toList
  parameters :=
    [⟨"const Zoo::Zoo::Cat & cat".toList, none⟩,
      ⟨"int amount".toList, some "count(1, \"Zoo::a,\")".toList⟩]

theorem feedSignature_isPlain : feedSignature.IsPlain where
  result := by
    refine ⟨by decide, by decide, ?_, by decide, ⟨by decide, by decide, by decide⟩⟩
    exact List.forall_iff_forall_mem.mp (by decide)
  name := by decide
  noKeyword := by decide
  parameters := by
    intro p hp
    rcases List.mem_cons.mp hp with rfl | hp
    · exact ⟨by decide, by decide, List.forall_iff_forall_mem.mp (by decide), by decide, by decide,
        ⟨by decide, by decide, by decide⟩, fun d hd => by simp at hd⟩
    · obtain rfl := List.mem_singleton.mp hp
      refine ⟨by decide, by decide, List.forall_iff_forall_mem.mp (by decide), by decide, by decide,
        ⟨by decide, by decide, by decide⟩, fun d hd => ?_⟩
      obtain rfl := Option.some.inj hd
      exact ⟨by decide, by decide, ⟨by decide, by decide, by decide⟩⟩
  start := by
    intro p hp c hc
    obtain rfl := Option.some.inj hp
    obtain rfl := Option.some.inj hc
    decide

namespace Tree

/-- The function is one node of the inner scope. -/
theorem place_feed :
    zooInZoo.ScopesAlong [0, 0] ["Zoo".toList, "Zoo".toList] ∧
      ∃ first second i,
        zooInZoo.place (some [0, 0]) (({} : Item).declare feedSignature.declaration) = .ok first ∧
        first.tree.place none
            (({} : Item).declare (feedSignature.definition ["Zoo".toList, "Zoo".toList])) =
          .ok second ∧
        first.position = [0, 0, i] ∧ second.position = [0, 0, i] := by
  have hscopes : zooInZoo.ScopesAlong [0, 0] ["Zoo".toList, "Zoo".toList] := by decide +kernel
  have hfind : zooInZoo.find [] "Zoo.Zoo".toList = .ok [0, 0] := by decide +kernel
  have hkeys : zooInZoo.KeysAlong [0, 0] ["Zoo".toList, "Zoo".toList] :=
    (find_eq_ok_iff_keysAlong.mp hfind).2
  obtain ⟨first, second, i, -, -, h₁, h₂, h₃, h₄, -⟩ :=
    place_declaration_definition zooInZoo {} {} hkeys hscopes (by decide) (by decide)
      feedSignature_isPlain rfl rfl
  exact ⟨hscopes, first, second, i, h₁, h₂, h₃, h₄⟩

end Tree

end DocTree
