/-
The names of scopes at the top level.

A scope is found under the key it was registered with, and an item that merges with it may bring a
longer name.  At the top level of a session no such item comes to a key that is a word, since a
function of this minimal form has the word as its name, or none:

* `Text.trim_eq_collapse` — a text that collapses to a word is this word between blanks;
* `collapse_eq_minimalForm` — without brackets and literals, a minimal form has lost nothing;
* `Item.WordNamed.declare` — so a function that is a word by its form is one by its name;
* `Entry.NamedByWord` — what this says of the children at the top level, which every step of a
  session keeps.

`Session.name_of_scopeIndex?` is the consequence: what is found under a word bears it as its name.
-/
import DocTree.Proofs.Locations
import DocTree.Proofs.TemplateMembers
import DocTree.Proofs.Trimming

namespace DocTree

/-! ### Texts that collapse to a word -/

namespace Text

variable {t x y : Text}

theorem all_isBlank_of_squeeze (h : ' ' ∉ squeeze true t) :
    t.all isBlank = true ∧ squeeze true t = [] := by
  induction t with
  | nil => exact ⟨rfl, rfl⟩
  | cons c t ih =>
    cases hc : isBlank c with
    | true =>
      rw [squeeze_blank hc] at h ⊢
      obtain ⟨hall, hnil⟩ := ih h
      exact ⟨by rw [List.all_cons, hc, hall]; rfl, hnil⟩
    | false =>
      rw [squeeze_cons hc] at h
      exact absurd (by simp) h

theorem trimEnd_eq_squeeze (h : ' ' ∉ squeeze false t) : trimEnd t = squeeze false t := by
  induction t with
  | nil => rfl
  | cons c t ih =>
    cases hc : isBlank c with
    | true =>
      rw [squeeze_blank hc] at h ⊢
      obtain ⟨hall, hnil⟩ := all_isBlank_of_squeeze h
      rw [hnil, trimEnd, dropEndWhile_eq_nil_iff, List.all_cons, hc, hall]
      rfl
    | false =>
      rw [squeeze_cons hc] at h ⊢
      have hrest := ih fun hmem => h (List.mem_append_right _ hmem)
      rw [← hrest]
      unfold trimEnd
      rw [dropEndWhile]
      cases dropEndWhile isBlank t with
      | nil => simp [hc]
      | cons d kept => rfl

/-- A text that collapses to one word is this word between blanks. -/
theorem trim_eq_collapse (h : ' ' ∉ collapse t) : trim t = collapse t := by
  rw [collapse_eq_squeeze] at h ⊢
  exact trimEnd_eq_squeeze h

end Text

namespace Minimal.State

/-- The first bracket or quote is kept. -/
theorem mem_kept_delimiter {s : State} {c : Char} (hlit : s.literal = none)
    (hrem : s.removing = none) (hc : c ∈ delimiters) (after : Option Char) :
    c ∈ (s.next c after).kept := by
  have hmem : c ∈ ['"', '\x27', '(', ')', '[', ']', '\x7b', '\x7d'] := hc
  obtain ⟨s', hout, hrem'⟩ : ∃ s', s.outside c after = some s' ∧ s'.removing = none := by
    simp only [List.mem_cons, List.not_mem_nil, or_false] at hmem
    rcases hmem with rfl | rfl | rfl | rfl | rfl | rfl | rfl | rfl <;>
      simp [outside, Literal.opened?, hrem]
  rw [next_of_outside hlit hout]
  simp [keep, hrem']

end Minimal.State

/-- A minimal form without brackets and quotes has lost nothing but blanks. -/
theorem collapse_eq_minimalForm {t : Text}
    (h : ∀ c ∈ minimalForm t, c ∉ Minimal.State.delimiters) : t.collapse = minimalForm t := by
  let plain : Char → Bool := fun c => !Minimal.State.delimiters.contains c
  have hsplit := List.takeWhile_append_dropWhile (p := plain) (l := t.collapse)
  have hfront : ∀ c ∈ t.collapse.takeWhile plain, c ∉ Minimal.State.delimiters := by
    intro c hc
    simpa [plain] using List.mem_takeWhile_imp hc
  have hfeed : ∀ after : Option Char,
      Minimal.State.feed after {} (t.collapse.takeWhile plain) = _ :=
    fun after => Minimal.State.feed_of_plain rfl rfl hfront (.inl (by decide))
  cases hrest : t.collapse.dropWhile plain with
  | nil =>
    rw [hrest, List.append_nil] at hsplit
    have hrun := Minimal.State.run_append {} (t.collapse.takeWhile plain) []
    rw [List.append_nil, hfeed, hsplit] at hrun
    rw [minimalForm, hrun]
    simp [Minimal.State.run]
  | cons c y =>
    -- the first of them would be in the minimal form
    have hc : c ∈ Minimal.State.delimiters := by
      have hhead := List.head?_dropWhile_not plain t.collapse
      rw [hrest] at hhead
      simpa [plain] using hhead
    have hne : c ≠ ' ' := by
      rintro rfl
      exact absurd hc (by decide)
    have hkept : c ∈ minimalForm t := by
      rw [minimalForm, ← hsplit, hrest, Minimal.State.run_append, hfeed, List.mem_reverse]
      exact Minimal.State.mem_kept_run hne (Minimal.State.mem_kept_delimiter rfl rfl hc _) y
    exact absurd hc (h c hkept)

/-! ### Functions that are a word -/

namespace Identifier

variable {t k : Text}

theorem joinScopedEnum_of_isWord (hk : IsWord k) : joinScopedEnum k = k := by
  have hrest : k.afterWord = [] := by
    rw [Text.afterWord, List.dropWhile_eq_nil_iff]
    exact hk.2
  unfold joinScopedEnum scopedEnum?
  simp [hrest]

theorem isName_of_isWord (hk : IsWord k) (hkey : k ≠ Operator.keyword) : IsName k where
  ne_nil := hk.1
  chars := fun c hc => by simp [Scope.isQualifierChar, hk.2 c hc]
  keyword := by rw [Operator.find?_of_forall_isWordChar hk.2, if_neg hkey]

/-- A declaration that is a word, after its template preamble, declares this word or nothing. -/
theorem ofDeclaration_of_isWord (hbody : (Templated.ofText t.trimStart).body.trim = k)
    (hk : IsWord k) (hkey : k ≠ Operator.keyword) :
    ofDeclaration t = k ∨ ofDeclaration t = [] := by
  have hname : IsName k := isName_of_isWord hk hkey
  have hsimple : IsSimple k := hname.simple
  have hcut : ∀ target : Char, isWordChar target = false → splitAtTop target k = none := by
    intro target htarget
    rw [splitAtTop_eq target hsimple, if_neg (hk.not_mem htarget)]
  have hwords : declaredWords k = [k] := by
    rw [declaredWords_eq_words hsimple]
    exact Text.words_of_forall_not_isBlank hk.1 hname.not_isBlank
  have hnaming : ∀ keywordLed, naming keywordLed k = (k, false) := by
    intro keywordLed
    simp [naming, hcut '=' (by decide), hcut '(' (by decide)]
  unfold ofDeclaration
  rw [hbody, joinScopedEnum_of_isWord hk]
  simp only [hnaming, hwords, choose]
  cases leadingKeywords.contains k.leadingWord with
  | false => exact .inl hname.dropPointerMark
  | true => exact .inr rfl

end Identifier

/-- Leading blanks do not matter for the body of a declaration. -/
theorem Templated.trim_body_trimStart (t : Text) :
    (Templated.ofText t.trimStart).body.trim = (Templated.ofText t).body.trim := by
  unfold Templated.ofText
  rw [Text.trimStart_trimStart]
  split
  · rename_i body _
    dsimp only
    by_cases hbody : body = t.trimStart
    · rw [if_pos hbody, if_pos hbody, Text.trim, Text.trim, Text.trimStart_trimStart]
    · rw [if_neg hbody, if_neg hbody]
  · rfl

/-- A function is displayed as its body stands. -/
theorem Display.ofDeclaration_of_function {t : Text} (h : Kind.ofDeclaration t = .function) :
    ofDeclaration t = (Templated.ofText t).body.trimEnd := by
  have hlead : (Templated.ofText t).body.trimStart.leadingWord ∉ keywords := by
    intro hmem
    simp only [keywords, List.mem_cons, List.not_mem_nil, or_false] at hmem
    unfold Kind.ofDeclaration at h
    rcases hmem with hw | hw | hw | hw | hw | hw | hw <;> simp [hw] at h
    split at h <;> simp at h
  rw [ofDeclaration, dropKeywords, dif_neg]
  exact fun hkeyword => hlead (List.contains_iff_mem.mp hkeyword.1)

namespace Item

variable {x y : Item} {d k : Text}

/-- If the item is a function with a word as its minimal form, it has this word as its name, or
none. -/
def WordNamed (x : Item) : Prop :=
  x.isFunction = true → ∀ k, x.minimal = some k → IsWord k → k ≠ Operator.keyword →
    x.name = some k ∨ x.name = none

/-- A function that is a word by its form is one by its name. -/
theorem qualifiedName_declare (hfun : (x.declare d).isFunction = true)
    (hform : minimalForm (Display.ofDeclaration d) = k) (hk : IsWord k)
    (hkey : k ≠ Operator.keyword) :
    (x.declare d).qualifiedName = some k ∨ (x.declare d).qualifiedName = none := by
  have hkind : Kind.ofDeclaration d = .function := by
    simpa [isFunction, declare] using hfun
  rw [Display.ofDeclaration_of_function hkind] at hform
  have hplain : ∀ c ∈ minimalForm (Templated.ofText d).body.trimEnd,
      c ∉ Minimal.State.delimiters := by
    intro c hc hdel
    have hword : ∀ c ∈ Minimal.State.delimiters, isWordChar c = false :=
      List.forall_iff_forall_mem.mp (by decide)
    rw [hform] at hc
    exact hk.not_mem (hword c hdel) hc
  have hcollapse := (collapse_eq_minimalForm hplain).trans hform
  have hspace : ' ' ∉ (Templated.ofText d).body.trimEnd.collapse := by
    rw [hcollapse]
    exact hk.not_mem (by decide)
  have hbody : (Templated.ofText d.trimStart).body.trim = k := by
    rw [Templated.trim_body_trimStart, ← Text.trim_trimEnd, Text.trim_eq_collapse hspace, hcollapse]
  have hne : k ≠ [] := hk.1
  simp only [declare]
  rcases Identifier.ofDeclaration_of_isWord hbody hk hkey with h | h <;> rw [h, Text.nonempty?]
  · exact .inl (by simp [hne])
  · exact .inr rfl

/-- The item has no name yet, and if it is a function, a declaration says so. -/
structure Nameless (x : Item) : Prop where
  name : x.name = none
  declared : x.isFunction = true → ∃ (y : Item) (d : Text), x = y.declare d

theorem Nameless.withAsIs (h : x.Nameless) (b : Bool) : ({ x with asIs := b } : Item).Nameless where
  name := h.name
  declared := by
    intro hfun
    obtain ⟨y, d, rfl⟩ := h.declared hfun
    refine ⟨{ y with asIs := b }, d, ?_⟩
    simp only [declare]

end Item

theorem Source.nameless_of_mem_scan {file : Text} {lines : List Text} {item : Item}
    (h : item ∈ scan file lines) : item.Nameless := by
  obtain ⟨before, line, rest, -, -, rfl⟩ := exists_itemAt_of_mem_scanFrom h
  have hcomment : ∀ comment location, (itemOf comment location).Nameless := fun _ _ =>
    ⟨rfl, fun hfun => absurd hfun (by simp [itemOf, Item.isFunction])⟩
  unfold itemAt
  dsimp only
  split
  · exact hcomment _ _
  · split
    · exact hcomment _ _
    · exact ⟨rfl, fun _ => ⟨_, _, rfl⟩⟩

/-! ### Children at the top level -/

/-- No qualifier is removed at the top level. -/
theorem Tree.display_settle_nil (t : Tree) (item : Item) :
    (t.settle [] item).display = item.display := by
  have hkeep : (unqualify (t.namesAlong []) item).display = item.display :=
    congrFun Option.map_id item.display
  unfold settle
  dsimp only
  by_cases hnone : Text.isNoText item.qualifiedName
  · rw [if_pos hnone]
    split <;> rfl
  · rw [if_neg hnone]
    split <;> exact hkeep

/-- Without a qualified name, an item keeps the name it has. -/
theorem Tree.name_settle_of_isNoText {item : Item} (h : Text.isNoText item.qualifiedName = true)
    (t : Tree) (p : Position) : (t.settle p item).name = item.name := by
  unfold settle
  dsimp only
  rw [if_pos h]
  split <;> rfl

/-- An item that goes to the top level is named by its word. -/
theorem Tree.wordNamed_settle {item : Item} (h : item.Nameless) (t : Tree) :
    (t.settle [] item).WordNamed := by
  intro hfun k hmin hk hkey
  have hitem : item.isFunction = true := by
    unfold settle at hfun
    dsimp only at hfun
    split at hfun <;> split at hfun <;> exact hfun
  obtain ⟨y, d, rfl⟩ := h.declared hitem
  have hdisplay : (t.settle [] (y.declare d)).display = some (Display.ofDeclaration d) :=
    display_settle_nil t _
  have hform : minimalForm (Display.ofDeclaration d) = k :=
    Option.some.inj ((minimal_settle hdisplay).symm.trans hmin)
  rcases Item.qualifiedName_declare hitem hform hk hkey with hname | hname
  · have hroot : dropRootMark k = k := dropRootMark_of_not_mem (hk.not_mem isWordChar_colon)
    left
    rw [(name_display_settle t [] hname hk.1).1, unqualify, hname]
    simp [Tree.namesAlong, Scope.removeQualifiers, hroot, hk.1]
  · right
    have hnone : Text.isNoText (y.declare d).qualifiedName = true := by rw [hname]; rfl
    rw [name_settle_of_isNoText hnone, h.name]

/-- A child that is registered under a word has this word as its name, or is a function without a
name. -/
def Entry.NamedByWord (e : Entry) : Prop :=
  ∀ k, e.key = some k → IsWord k → k ≠ Operator.keyword →
    e.item.name = some k ∨ e.item.isFunction = true ∧ e.item.name = none

section NamedByWord

variable {e : Entry} {x : Item} {k : Text}

/-- An item of this key brings this name, or is a function without a name. -/
theorem Item.WordNamed.name_of_registeredKey (hx : x.WordNamed)
    (hk : Tree.registeredKey x = some k) (hword : IsWord k) (hkey : k ≠ Operator.keyword) :
    x.name = some k ∨ x.isFunction = true ∧ x.name = none := by
  cases hfun : x.isFunction with
  | false => exact .inl (Tree.name_of_registeredKey hk hfun)
  | true =>
    exact (hx hfun k (Tree.minimal_of_registeredKey hk hfun) hword hkey).imp_right fun h => ⟨rfl, h⟩

/-- The step for a child that the item merges with. -/
theorem Entry.NamedByWord.merge (he : e.NamedByWord) (hx : x.WordNamed)
    (hxk : Tree.registeredKey x = some k) (hek : e.key = some k) :
    Entry.NamedByWord ⟨e.item.merge x, e.key⟩ := by
  intro k' hk' hword hkey
  obtain rfl := Option.some.inj (hek.symm.trans hk')
  show Item.longer? e.item.name x.name = some k ∨
    x.isFunction = true ∧ Item.longer? e.item.name x.name = none
  rcases he k hek hword hkey with hold | ⟨-, hold⟩ <;>
    rcases hx.name_of_registeredKey hxk hword hkey with hnew | ⟨hfun, hnew⟩ <;> rw [hold, hnew]
  · exact .inl (Item.longer?_self _)
  · exact .inl rfl
  · exact .inl rfl
  · exact .inr ⟨hfun, rfl⟩

theorem Entry.NamedByWord.release (he : e.NamedByWord) (key : Option Text) :
    (e.release key).NamedByWord := by
  intro k hk
  rw [Entry.item_release]
  exact he k (Entry.key_release_eq_some.mp hk).1

end NamedByWord

namespace Tree

variable {t : Tree} {x item : Item}

/-- The children at the top level are named by their words. -/
def TopNamed (t : Tree) : Prop := ∀ e ∈ t.entries, e.NamedByWord

theorem TopNamed.accept (h : t.TopNamed) (hx : x.WordNamed) : (t.accept x).1.TopNamed := by
  intro e he
  rcases accept_cases t x with ⟨i, c, k, hxk, hchild, -, heq⟩ | ⟨-, heq⟩
  · obtain ⟨hi, hck, -⟩ := child?_eq_some.mp hchild
    rw [heq, entries_mergeItem hi] at he
    rcases List.mem_or_eq_of_mem_set he with he | rfl
    · exact h e he
    · exact (h c.entry (List.mem_of_getElem? (getElem?_entries_of_child hi))).merge hx hxk hck
  · rw [heq, entries_append] at he
    rcases List.mem_append.mp he with he | he
    · obtain ⟨e₀, he₀, rfl⟩ := List.mem_map.mp he
      exact (h e₀ he₀).release _
    · obtain rfl := List.mem_singleton.mp he
      exact fun k hk => hx.name_of_registeredKey hk

/-- The step: an item that is placed anywhere leaves the top level so. -/
theorem TopNamed.insert (h : t.TopNamed) {parent : Position} (hx : parent = [] → x.WordNamed) :
    (t.insert parent x).1.TopNamed := by
  rcases get?_insert_cases (get?_nil (t.insert parent x).1) with
    ⟨hroot, n, hn, heq⟩ | ⟨-, ⟨n, hn, hent⟩ | hent⟩
  · subst hroot
    obtain rfl := Option.some.inj hn
    rw [heq]
    exact h.accept (hx rfl)
  · obtain rfl := Option.some.inj hn
    rw [TopNamed, hent]
    exact h
  · rw [TopNamed, hent]
    simp

/-- The run: so do the items of a file, as far as they can be placed. -/
theorem TopNamed.placeFrom {items : List Item} (hitems : ∀ item ∈ items, item.Nameless) :
    ∀ {t : Tree} (cursor : Cursor), t.TopNamed →
      (Source.placeFrom t cursor items).tree.TopNamed := by
  induction items with
  | nil => exact fun _ h => h
  | cons item rest ih =>
    intro t cursor h
    rw [List.forall_mem_cons] at hitems
    unfold Source.placeFrom
    cases hplace : t.place cursor item with
    | error e => exact h
    | ok placed =>
      obtain ⟨parent, x, hdest, htree, -⟩ := destination_of_place hplace
      obtain ⟨target, -, -, rfl⟩ := destination_eq_ok_iff.mp hdest
      refine ih hitems.2 placed.cursor ?_
      rw [htree]
      refine h.insert ?_
      rintro rfl
      exact wordNamed_settle (hitems.1.withAsIs _) t

end Tree

namespace Session

theorem topNamed_run (actions : List Action) : (run actions).tree.TopNamed := by
  unfold run
  induction actions using List.reverseRecOn with
  | nil => exact fun e he => absurd he (by simp [Tree.entries, Tree.empty])
  | append_singleton actions action ih =>
    rw [List.foldl_append]
    cases action with
    | read file lines =>
      exact Tree.TopNamed.placeFrom (fun _ => Source.nameless_of_mem_scan) none ih
    | sort => exact fun e he => ih e ((Tree.entries_sortChildren_perm _).mem_iff.mp he)

/-- **A scope at the top level bears the word that it is found under.**  In a session, it may merge
with declarations of other names only if it was registered under something else than a word. -/
theorem name_of_scopeIndex? (actions : List Action) {k : Text} {i : Nat}
    (h : (run actions).tree.scopeIndex? k = some i) (hk : IsWord k) (hkey : k ≠ Operator.keyword) :
    ∃ c, (run actions).tree.children[i]? = some c ∧ c.item.name = some k := by
  obtain ⟨e, he, hek, hfun, -⟩ := Tree.scopeIndex?_eq_some.mp h
  obtain ⟨c, hc, rfl⟩ := Tree.getElem?_entries_eq_some.mp he
  rcases topNamed_run actions c.entry (List.mem_of_getElem? he) k hek hk hkey with
    hname | ⟨hfun', -⟩
  · exact ⟨c, hc, hname⟩
  · exact absurd (hfun'.symm.trans hfun) (by simp)

end Session

end DocTree
