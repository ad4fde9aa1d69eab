/-
Placing is atomic and local.

A placement carries out directives, walks along the scopes of a qualified name and puts the item
below the node that it comes to:

* `Tree.ScopeWalk` — where segments lead, and `Tree.StuckAt` — that they lead nowhere;
* `Directive.asksToAdopt` — whether directives make their item the cursor;
* `Tree.place_eq_ok_iff` — a placement that succeeds is an insertion at the destination;
* `Tree.exists_place_eq_error_iff` — it fails exactly when its directives fail or the walk gets
  stuck.

Failures come before any change, and an insertion changes one face or appends one node, so
placing is atomic and local (`Tree.place_local`).
-/
import DocTree.Proofs.Faces
import DocTree.Source

namespace DocTree

/-! ### Directives -/

/-- What every step of a computation keeps holds in the end. -/
theorem foldlM_keeps {α β : Type} {f : α → β → Except Error α} {P : α → Prop}
    (hstep : ∀ a b a', P a → f a b = .ok a' → P a') {bs : List β} :
    ∀ {a a' : α}, P a → bs.foldlM f a = .ok a' → P a' := by
  induction bs with
  | nil =>
    intro a a' ha h
    obtain rfl := Except.ok.inj h
    exact ha
  | cons b bs ih =>
    intro a a' ha h
    rw [List.foldlM_cons] at h
    obtain ⟨a₁, h₁, h⟩ := bind_eq_ok.mp h
    exact ih (hstep a b a₁ ha h₁) h

/-- Whether the item of these directives becomes the cursor: one of them says so, and the comment
does not stand on its own. -/
def Directive.asksToAdopt (source : Text) : Bool :=
  (read source).contains .adopt && !(read source).contains .asIs

namespace Tree

variable {t t' node : Tree} {item x : Item} {cursor : Cursor} {target : Target}
  {p q parent position : Position} {k s name : Text} {i : Nat}

/-- The cursor is at the root or at a node of the tree. -/
def HasCursor (t : Tree) (cursor : Cursor) : Prop :=
  ∀ p, cursor = some p → ∃ node, t.get? p = some node

theorem HasCursor.getD (h : t.HasCursor cursor) : ∃ node, t.get? (cursor.getD []) = some node := by
  cases cursor with
  | none => exact ⟨t, get?_nil t⟩
  | some p => exact h p rfl

theorem exists_of_enclosing_eq_some (h : Directive.enclosing cursor = some q) :
    ∃ p, cursor = some p ∧ q = p.dropLast := by
  cases cursor with
  | none => simp [Directive.enclosing] at h
  | some p =>
    refine ⟨p, rfl, ?_⟩
    unfold Directive.enclosing at h
    cases hp : p.dropLast <;> simp_all

theorem HasCursor.enclosing (h : t.HasCursor cursor) :
    t.HasCursor (Directive.enclosing cursor) := by
  intro q hq
  obtain ⟨p, hp, hdrop⟩ := exists_of_enclosing_eq_some hq
  obtain ⟨node, hnode⟩ := h p hp
  rcases List.eq_nil_or_concat p with rfl | ⟨r, i, rfl⟩
  · exact ⟨t, by rw [hdrop]; exact get?_nil t⟩
  · rw [List.concat_eq_append] at hnode hdrop
    rw [get?_append] at hnode
    obtain ⟨m, hm, -⟩ := Option.bind_eq_some_iff.mp hnode
    exact ⟨m, by rw [hdrop, List.dropLast_concat]; exact hm⟩

/-- The table of the node at `p` has the child of index `i` under the key, and that is no
function. -/
def NamesScope (t : Tree) (p : Position) (k : Text) (i : Nat) : Prop :=
  ∃ F G, t.face? p = some F ∧ F.table k = some i ∧ t.face? (p ++ [i]) = some G ∧
    G.item.isFunction = false

theorem scopeBelow?_eq_some :
    t.scopeBelow? p k = some q ↔ ∃ i, t.NamesScope p k i ∧ q = p ++ [i] := by
  cases hp : t.get? p with
  | none =>
    simp only [scopeBelow?, hp, Option.bind_none, NamesScope, face?, Option.map_none]
    simp
  | some node =>
    rw [scopeBelow?, hp, Option.bind_some, scopeIndex?, Option.map_eq_some_iff]
    constructor
    · rintro ⟨i, hi, rfl⟩
      obtain ⟨⟨j, c⟩, hc, hfun⟩ := Option.bind_eq_some_iff.mp hi
      have hnot : c.item.isFunction = false := by
        cases hcf : c.item.isFunction <;> simp [hcf] at hfun ⊢
      obtain rfl : j = i := by simpa [hnot] using hfun
      refine ⟨j, ⟨node.face, c.face, face?_of_get? hp, childIndex?_eq_some.mpr ⟨c, hc⟩, ?_, hnot⟩,
        rfl⟩
      rw [face?_concat hp, (child?_eq_some.mp hc).1]
      rfl
    · rintro ⟨i, ⟨F, G, hF, hi, hG, hnot⟩, rfl⟩
      obtain rfl := Option.some.inj ((face?_of_get? hp).symm.trans hF)
      obtain ⟨c, hc⟩ := childIndex?_eq_some.mp hi
      rw [face?_concat hp, (child?_eq_some.mp hc).1] at hG
      obtain rfl := Option.some.inj hG
      have hfun : c.item.isFunction = false := hnot
      exact ⟨i, by simp [hc, hfun], rfl⟩

theorem NamesScope.exists_get? (h : t.NamesScope p k i) :
    ∃ node, t.get? (p ++ [i]) = some node := by
  obtain ⟨-, G, -, -, hG, -⟩ := h
  obtain ⟨node, hnode, -⟩ := exists_get?_of_face? hG
  exact ⟨node, hnode⟩

theorem findStep_eq_ok_iff {path segment : Text} :
    t.findStep path p segment = .ok q ↔
      segment ≠ [] ∧ ∃ i, t.NamesScope p segment i ∧ q = p ++ [i] := by
  rw [← scopeBelow?_eq_some]
  unfold findStep
  cases segment with
  | nil => simp
  | cons c rest => cases t.scopeBelow? p (c :: rest) <;> simp

theorem exists_get?_of_find {path : Text} (hp : ∃ node, t.get? p = some node)
    (h : t.find p path = .ok q) : ∃ node, t.get? q = some node := by
  refine foldlM_keeps (P := fun r => ∃ node, t.get? r = some node) ?_ hp h
  intro r segment r' _ hstep
  obtain ⟨-, i, hi, rfl⟩ := findStep_eq_ok_iff.mp hstep
  exact hi.exists_get?

/-- Directives lead from a node to a node. -/
theorem HasCursor.carryOut {source : Text} (h : t.HasCursor cursor)
    (htarget : Directive.carryOut t source cursor = .ok target) : t.HasCursor target.parent := by
  refine foldlM_keeps (P := fun target : Target => t.HasCursor target.parent) ?_ h htarget
  intro target d target' hparent hstep
  cases d with
  | asIs => exact Except.ok.inj hstep ▸ h
  | adopt => exact Except.ok.inj hstep ▸ hparent
  | up => exact Except.ok.inj hstep ▸ hparent.enclosing
  | top =>
    obtain rfl := Except.ok.inj hstep
    intro p hp
    exact absurd hp (by simp)
  | descend path =>
    simp only [Directive.step] at hstep
    cases hfind : t.find (target.parent.getD []) path with
    | error e => simp [hfind] at hstep
    | ok q =>
      rw [hfind] at hstep
      obtain rfl := Except.ok.inj hstep
      intro p hp
      obtain rfl : q = p := by simpa using hp
      exact exists_get?_of_find hparent.getD hfind
  | unclosed => simp [Directive.step] at hstep

end Tree

namespace Directive

variable {t : Tree} {source : Text} {cursor : Cursor} {target target' : Target}

/-- Nothing is read after a comment has been said to stand on its own. -/
theorem asIs_not_mem_dropLast_readFrom (o : Option Text) (text : Text) :
    asIs ∉ (readFrom o text).dropLast := by
  have hcons : ∀ {d : Directive} {ds : List Directive}, d ≠ asIs → asIs ∉ ds.dropLast →
      asIs ∉ (d :: ds).dropLast := by
    intro d ds hd hds
    cases ds with
    | nil => simp
    | cons e ds =>
      rw [List.dropLast_cons_of_ne_nil (by simp)]
      exact fun hmem => (List.mem_cons.mp hmem).elim (fun h => hd h.symm) hds
  fun_induction readFrom o text with
  | case1 => simp
  | case2 => simp
  | case3 path c rest hc ih => exact hcons (by simp) ih
  | case4 path c rest hc ih => exact ih
  | case5 c rest hc => simp
  | case6 c rest h1 h2 ih => exact hcons (by simp) ih
  | case7 c rest h1 h2 h3 ih => exact hcons (by simp) ih
  | case8 c rest h1 h2 h3 h4 ih => exact hcons (by simp) ih
  | case9 c rest h1 h2 h3 h4 h5 ih => exact ih
  | case10 c rest h1 h2 h3 h4 h5 ih => exact ih

/-- What a directive other than `~` does to the flags of the target. -/
theorem flags_of_step {d : Directive} (hd : d ≠ asIs)
    (h : step t source cursor target d = .ok target') :
    target'.asIs = target.asIs ∧ target'.adopts = (target.adopts || adopt == d) := by
  cases d with
  | asIs => exact absurd rfl hd
  | adopt => simp [← Except.ok.inj h]
  | up | top => rw [← Except.ok.inj h]; simp
  | descend path =>
    simp only [step] at h
    cases hfind : t.find (target.parent.getD []) path with
    | error e => simp [hfind] at h
    | ok q =>
      rw [hfind] at h
      rw [← Except.ok.inj h]
      simp
  | unclosed => simp [step] at h

/-- Among other directives, the item becomes the cursor once one of them says so. -/
theorem flags_of_foldlM {ds : List Directive} (hds : asIs ∉ ds)
    (h : ds.foldlM (step t source cursor) target = .ok target') :
    target'.asIs = target.asIs ∧ target'.adopts = (target.adopts || ds.contains adopt) := by
  induction ds generalizing target with
  | nil =>
    obtain rfl := Except.ok.inj h
    simp
  | cons d ds ih =>
    rw [List.foldlM_cons] at h
    obtain ⟨next, hnext, h⟩ := bind_eq_ok.mp h
    rw [List.mem_cons, not_or] at hds
    obtain ⟨hasIs, hadopts⟩ := flags_of_step (Ne.symm hds.1) hnext
    obtain ⟨hasIs', hadopts'⟩ := ih hds.2 h
    exact ⟨hasIs'.trans hasIs, by rw [hadopts', hadopts, List.contains_cons, Bool.or_assoc]⟩

/-- Directives that are carried out leave the cursor alone, for a comment that stands on its own,
or none of them says so. -/
theorem carryOut_cases (h : carryOut t source cursor = .ok target) :
    (asIs ∈ read source ∧ target = { parent := cursor, asIs := true, adopts := false }) ∨
      (asIs ∉ read source ∧ target.asIs = false ∧
        target.adopts = (read source).contains adopt) := by
  have hlast : asIs ∉ (read source).dropLast := asIs_not_mem_dropLast_readFrom none source
  unfold carryOut at h
  by_cases hmem : asIs ∈ read source
  · obtain ⟨ds, d, hds⟩ : ∃ ds d, read source = ds ++ [d] := by
      rcases List.eq_nil_or_concat (read source) with hnil | ⟨ds, d, hds⟩
      · exact absurd hmem (by simp [hnil])
      · exact ⟨ds, d, by rw [hds, List.concat_eq_append]⟩
    rw [hds, List.dropLast_concat] at hlast
    obtain rfl : asIs = d := by
      rw [hds] at hmem
      exact (List.mem_append.mp hmem).elim (absurd · hlast) List.mem_singleton.mp
    rw [hds, List.foldlM_append] at h
    obtain ⟨before, -, h⟩ := bind_eq_ok.mp h
    exact .inl ⟨hmem, by simpa [step] using h.symm⟩
  · obtain ⟨hasIs, hadopts⟩ := flags_of_foldlM hmem h
    exact .inr ⟨hmem, hasIs, by simpa using hadopts⟩

/-- Directives that are carried out make the item the cursor exactly when they ask for it. -/
theorem adopts_of_carryOut (h : carryOut t source cursor = .ok target) :
    target.adopts = asksToAdopt source := by
  rcases carryOut_cases h with ⟨hmem, rfl⟩ | ⟨hmem, -, hadopts⟩
  · simp [asksToAdopt, hmem]
  · simp [asksToAdopt, hmem, hadopts]

end Directive

/-! ### Scopes of a qualified name -/

/-- The segments of the qualified name that name scopes: all but the last. -/
def Item.scopes (item : Item) : List Text :=
  match item.qualifiedName with
  | some (c :: rest) => (Scope.split (c :: rest)).dropLast
  | _ => []

namespace Tree

variable {t t' node : Tree} {item x : Item} {cursor : Cursor} {target : Target}
  {p q parent position : Position} {k s name : Text} {i : Nat} {segments : List Text}

/-- The segments lead from `p` to `q`: an empty one starts again at the root, and any other, less
the template arguments at its end, names a scope below. -/
inductive ScopeWalk (t : Tree) : Position → List Text → Position → Prop
  | done (p : Position) : ScopeWalk t p [] p
  | restart {p q : Position} {rest : List Text} (h : ScopeWalk t [] rest q) :
      ScopeWalk t p ([] :: rest) q
  | descend {p q : Position} {s : Text} {rest : List Text} {i : Nat} (hs : s ≠ [])
      (hi : t.NamesScope p (Scope.dropArguments s) i) (h : ScopeWalk t (p ++ [i]) rest q) :
      ScopeWalk t p (s :: rest) q

/-- Some segment, reached by the walk from `p`, is not empty and names no scope. -/
def StuckAt (t : Tree) (p : Position) (segments : List Text) : Prop :=
  ∃ front s back q, segments = front ++ s :: back ∧ t.ScopeWalk p front q ∧ s ≠ [] ∧
    ∀ i, ¬ t.NamesScope q (Scope.dropArguments s) i

theorem resolveStep_eq_ok_iff :
    t.resolveStep item name p s = .ok q ↔
      (s = [] ∧ q = []) ∨
        (s ≠ [] ∧ ∃ i, t.NamesScope p (Scope.dropArguments s) i ∧ q = p ++ [i]) := by
  rw [← scopeBelow?_eq_some]
  unfold resolveStep
  cases s with
  | nil => simp [eq_comm]
  | cons c s => cases t.scopeBelow? p (Scope.dropArguments (c :: s)) <;> simp

theorem foldlM_resolveStep_eq_ok_iff (item : Item) (name : Text) :
    segments.foldlM (t.resolveStep item name) p = .ok q ↔ t.ScopeWalk p segments q := by
  induction segments generalizing p with
  | nil =>
    constructor
    · intro h
      obtain rfl := Except.ok.inj h
      exact .done p
    · intro h
      cases h
      rfl
  | cons s rest ih =>
    rw [List.foldlM_cons, bind_eq_ok]
    constructor
    · rintro ⟨r, hr, hrest⟩
      rcases resolveStep_eq_ok_iff.mp hr with ⟨rfl, rfl⟩ | ⟨hs, i, hi, rfl⟩
      · exact .restart (ih.mp hrest)
      · exact .descend hs hi (ih.mp hrest)
    · intro h
      cases h with
      | restart h => exact ⟨[], resolveStep_eq_ok_iff.mpr (.inl ⟨rfl, rfl⟩), ih.mpr h⟩
      | @descend _ _ _ _ i hs hi h =>
        exact ⟨p ++ [i], resolveStep_eq_ok_iff.mpr (.inr ⟨hs, i, hi, rfl⟩), ih.mpr h⟩

theorem resolve_eq_ok_iff_scopeWalk : t.resolve p item = .ok q ↔ t.ScopeWalk p item.scopes q := by
  rw [← foldlM_resolveStep_eq_ok_iff item (item.qualifiedName.getD [])]
  unfold resolve Item.scopes
  rcases item.qualifiedName with _ | _ | ⟨c, rest⟩ <;> rfl

/-- The walk gets stuck exactly when it leads nowhere. -/
theorem stuckAt_iff : t.StuckAt p segments ↔ ∀ q, ¬ t.ScopeWalk p segments q := by
  induction segments generalizing p with
  | nil =>
    constructor
    · rintro ⟨front, s, back, q, heq, -⟩
      simp at heq
    · intro h
      exact absurd (.done p) (h p)
  | cons s rest ih =>
    constructor
    · rintro ⟨front, s', back, q, heq, hfront, hs', hnone⟩ r hwalk
      cases hfront with
      | done =>
        obtain ⟨rfl, rfl⟩ := List.cons.inj heq
        cases hwalk with
        | restart h => exact hs' rfl
        | descend hs hi h => exact hnone _ hi
      | restart hfront =>
        obtain ⟨rfl, rfl⟩ := List.cons.inj heq
        cases hwalk with
        | restart h => exact ih.mp ⟨_, s', back, q, rfl, hfront, hs', hnone⟩ r h
        | descend hs hi h => exact hs rfl
      | descend hs hi hfront =>
        obtain ⟨rfl, rfl⟩ := List.cons.inj heq
        cases hwalk with
        | restart h => exact hs rfl
        | descend hs₂ hi₂ h =>
          -- a key leads to one child only
          obtain ⟨F, -, hF, hkey, -⟩ := hi
          obtain ⟨F₂, -, hF₂, hkey₂, -⟩ := hi₂
          obtain rfl := Option.some.inj (hF.symm.trans hF₂)
          obtain rfl := Option.some.inj (hkey.symm.trans hkey₂)
          exact ih.mp ⟨_, s', back, q, rfl, hfront, hs', hnone⟩ r h
    · intro h
      by_cases hs : s = []
      · subst hs
        obtain ⟨front, s', back, q, rfl, hfront, hrest⟩ :=
          (ih (p := [])).mpr fun q hq => h q (.restart hq)
        exact ⟨[] :: front, s', back, q, rfl, .restart hfront, hrest⟩
      · by_cases hi : ∃ i, t.NamesScope p (Scope.dropArguments s) i
        · obtain ⟨i, hi⟩ := hi
          obtain ⟨front, s', back, q, rfl, hfront, hrest⟩ :=
            (ih (p := p ++ [i])).mpr fun q hq => h q (.descend hs hi hq)
          exact ⟨s :: front, s', back, q, rfl, .descend hs hi hfront, hrest⟩
        · exact ⟨[], s, rest, p, rfl, .done p, hs, fun i hn => hi ⟨i, hn⟩⟩

theorem NamesScope.key_unique {k k' : Text} {i : Nat} (h : t.NamesScope p k i)
    (h' : t.NamesScope p k' i) : k = k' := by
  obtain ⟨F, -, hF, hkey, -⟩ := h
  obtain ⟨F', -, hF', hkey', -⟩ := h'
  obtain ⟨node, hnode, rfl⟩ := exists_get?_of_face? hF
  obtain rfl := Option.some.inj ((face?_of_get? hnode).symm.trans hF')
  exact table_injective hkey hkey'

/-- A walk along names goes down one node for each of them. -/
theorem ScopeWalk.exists_append (h : t.ScopeWalk p segments q)
    (hne : ∀ s ∈ segments, s ≠ []) : ∃ r, q = p ++ r ∧ r.length = segments.length := by
  induction h with
  | done => exact ⟨[], by simp, rfl⟩
  | restart => exact absurd rfl (hne [] (by simp))
  | @descend p q s rest i hs hi h ih =>
    obtain ⟨r, rfl, hr⟩ := ih fun s hs => hne s (by simp [hs])
    exact ⟨i :: r, by simp, by simp [hr]⟩

/-- The walk leads from a node to a node. -/
theorem ScopeWalk.exists_get? (h : t.ScopeWalk p segments q) (hp : ∃ node, t.get? p = some node) :
    ∃ node, t.get? q = some node := by
  induction h with
  | done => exact hp
  | restart _ ih => exact ih ⟨t, get?_nil t⟩
  | descend _ hi _ ih => exact ih hi.exists_get?

/-! ### Placements -/

theorem targetOf_eq_ok_iff :
    t.targetOf cursor item = .ok target ↔
      Directive.carryOut t item.directives cursor = .ok target := by
  unfold targetOf
  cases Directive.carryOut t item.directives cursor with
  | ok found => exact Iff.rfl
  | error e =>
    show (.error (Error.forItem item e) : Except Error Target) = .ok target ↔ _
    simp

/-- Where an item goes, and the item as it appears there. -/
theorem destination_eq_ok_iff :
    t.destination cursor item = .ok (parent, x) ↔
      ∃ target, Directive.carryOut t item.directives cursor = .ok target ∧
        t.ScopeWalk (target.parent.getD []) item.scopes parent ∧
        x = t.settle parent { item with asIs := target.asIs } := by
  constructor
  · intro h
    obtain ⟨target, htarget, h⟩ := bind_eq_ok.mp h
    obtain ⟨parent', hparent, h⟩ := bind_eq_ok.mp h
    obtain ⟨rfl, rfl⟩ := Prod.mk.inj (Except.ok.inj h)
    exact ⟨target, targetOf_eq_ok_iff.mp htarget, resolve_eq_ok_iff_scopeWalk.mp hparent, rfl⟩
  · rintro ⟨target, htarget, hwalk, rfl⟩
    exact bind_eq_ok.mpr ⟨target, targetOf_eq_ok_iff.mpr htarget,
      bind_eq_ok.mpr ⟨parent, resolve_eq_ok_iff_scopeWalk.mpr hwalk, rfl⟩⟩

/-- A placement is an insertion at the destination, and makes its node the cursor if the
directives ask for it. -/
theorem place_eq_ok_iff {placed : Placement} :
    t.place cursor item = .ok placed ↔
      ∃ parent x, t.destination cursor item = .ok (parent, x) ∧
        placed.tree = (t.insert parent x).1 ∧ placed.position = (t.insert parent x).2 ∧
        placed.cursor =
          if Directive.asksToAdopt item.directives then some placed.position else cursor := by
  constructor
  · intro h
    obtain ⟨target, htarget, h⟩ := bind_eq_ok.mp h
    obtain ⟨parent, hparent, h⟩ := bind_eq_ok.mp h
    obtain rfl := Except.ok.inj h
    refine ⟨parent, t.settle parent { item with asIs := target.asIs }, ?_, rfl, rfl, ?_⟩
    · exact bind_eq_ok.mpr ⟨target, htarget, bind_eq_ok.mpr ⟨parent, hparent, rfl⟩⟩
    · rw [← Directive.adopts_of_carryOut (targetOf_eq_ok_iff.mp htarget)]
  · rintro ⟨parent, x, hdest, htree, hposition, hcursor⟩
    obtain ⟨target, htarget, hdest⟩ := bind_eq_ok.mp hdest
    obtain ⟨parent', hparent, hdest⟩ := bind_eq_ok.mp hdest
    obtain ⟨rfl, rfl⟩ := Prod.mk.inj (Except.ok.inj hdest)
    refine bind_eq_ok.mpr ⟨target, htarget, bind_eq_ok.mpr ⟨parent', hparent, ?_⟩⟩
    rw [← Directive.adopts_of_carryOut (targetOf_eq_ok_iff.mp htarget), hposition] at hcursor
    obtain ⟨tree, position, next⟩ := placed
    subst htree hposition hcursor
    rfl

/-- The destination of an item is a node of the tree. -/
theorem HasCursor.exists_get?_destination (h : t.HasCursor cursor)
    (hdest : t.destination cursor item = .ok (parent, x)) : ∃ node, t.get? parent = some node := by
  obtain ⟨target, htarget, hwalk, -⟩ := destination_eq_ok_iff.mp hdest
  exact hwalk.exists_get? (h.carryOut htarget).getD

/-- An item that is placed is inserted at its destination, which is a node of the tree. -/
theorem HasCursor.insert_of_place {placed : Placement} (h : t.HasCursor cursor)
    (hdest : t.destination cursor item = .ok (parent, x))
    (hplace : t.place cursor item = .ok placed) :
    ∃ node, t.get? parent = some node ∧ placed.tree = (t.insert parent x).1 ∧
      placed.position = (t.insert parent x).2 ∧
      placed.cursor =
        if Directive.asksToAdopt item.directives then some placed.position else cursor := by
  obtain ⟨parent', x', hdest', hinsert⟩ := place_eq_ok_iff.mp hplace
  obtain ⟨rfl, rfl⟩ := Prod.mk.inj (Except.ok.inj (hdest.symm.trans hdest'))
  obtain ⟨node, hnode⟩ := h.exists_get?_destination hdest
  exact ⟨node, hnode, hinsert⟩

/-- A placement fails exactly when the directives do, or the walk from their target along the
scopes of the qualified name gets stuck. -/
theorem exists_place_eq_error_iff :
    (∃ e, t.place cursor item = .error e) ↔
      (∃ e, Directive.carryOut t item.directives cursor = .error e) ∨
        ∃ target, Directive.carryOut t item.directives cursor = .ok target ∧
          t.StuckAt (target.parent.getD []) item.scopes := by
  have hfail : (∃ e, t.place cursor item = .error e) ↔
      ∀ placed, t.place cursor item ≠ .ok placed := by
    cases t.place cursor item <;> simp
  rw [hfail]
  cases htarget : Directive.carryOut t item.directives cursor with
  | error e =>
    refine iff_of_true (fun placed hplaced => ?_) (.inl ⟨e, rfl⟩)
    obtain ⟨parent, x, hdest, -⟩ := place_eq_ok_iff.mp hplaced
    obtain ⟨target, htarget', -⟩ := destination_eq_ok_iff.mp hdest
    rw [htarget] at htarget'
    exact absurd htarget' (by simp)
  | ok target =>
    constructor
    · intro h
      refine .inr ⟨target, rfl, stuckAt_iff.mpr fun parent hwalk => ?_⟩
      obtain ⟨placed, hplaced, -⟩ :=
        place_of_destination (destination_eq_ok_iff.mpr ⟨target, htarget, hwalk, rfl⟩)
      exact h placed hplaced
    · rintro (⟨e, he⟩ | ⟨target', htarget', hstuck⟩) placed hplaced
      · exact absurd he (by simp)
      · obtain ⟨parent, x, hdest, -⟩ := place_eq_ok_iff.mp hplaced
        obtain ⟨target₂, htarget₂, hwalk, -⟩ := destination_eq_ok_iff.mp hdest
        obtain rfl := Except.ok.inj htarget'
        obtain rfl := Except.ok.inj (htarget.symm.trans htarget₂)
        exact stuckAt_iff.mp hstuck parent hwalk

/-- A failure leaves the tree to the items after it as it was. -/
theorem tree_placeFrom_of_error {e : Error} (h : t.place cursor item = .error e)
    (rest : List Item) :
    (Source.placeFrom t cursor (item :: rest)).tree = t := by
  simp only [Source.placeFrom, h]

/-- **Placing is atomic and local.**  From a cursor in the tree, a placement fails exactly when
its directives fail or the walk from their target along the scopes of the qualified name gets
stuck, and then the tree stays as it was.  Otherwise the item, settled below the node that the walk
leads to, either becomes the last child there or is merged into the one child there that is
registered under its key, and nothing else changes.  Its node becomes the cursor if the
directives ask for it. -/
theorem place_local (t : Tree) (cursor : Cursor) (item : Item) (hcursor : t.HasCursor cursor) :
    ((∃ e, t.place cursor item = .error e) ↔
        (∃ e, Directive.carryOut t item.directives cursor = .error e) ∨
          ∃ target, Directive.carryOut t item.directives cursor = .ok target ∧
            t.StuckAt (target.parent.getD []) item.scopes) ∧
      (∀ e, t.place cursor item = .error e → ∀ rest,
        (Source.placeFrom t cursor (item :: rest)).tree = t) ∧
      ∀ placed, t.place cursor item = .ok placed →
        (∃ target parent x, Directive.carryOut t item.directives cursor = .ok target ∧
          t.ScopeWalk (target.parent.getD []) item.scopes parent ∧
          x = t.settle parent { item with asIs := target.asIs } ∧
          ((t.AppendedTo placed.tree parent x placed.position ∧
              ¬ t.MergedInto placed.tree parent x placed.position) ∨
            (t.MergedInto placed.tree parent x placed.position ∧
              ¬ t.AppendedTo placed.tree parent x placed.position))) ∧
        placed.cursor =
          if Directive.asksToAdopt item.directives then some placed.position else cursor := by
  refine ⟨exists_place_eq_error_iff, fun e h rest => tree_placeFrom_of_error h rest, ?_⟩
  intro placed hplaced
  obtain ⟨parent, x, hdest, htree, hposition, hnext⟩ := place_eq_ok_iff.mp hplaced
  obtain ⟨node, hnode⟩ := hcursor.exists_get?_destination hdest
  obtain ⟨target, htarget, hwalk, hx⟩ := destination_eq_ok_iff.mp hdest
  refine ⟨⟨target, parent, x, htarget, hwalk, hx, ?_⟩, hnext⟩
  rw [htree, hposition]
  rcases insert_cases hnode x with ⟨-, hmerged⟩ | ⟨-, happended⟩
  · exact .inr ⟨hmerged, fun h => h.not_mergedInto hmerged⟩
  · exact .inl ⟨happended, happended.not_mergedInto⟩

/-- A namespace with a function in it. -/
def zoo : Tree :=
  (Source.placeAll empty "zoo.h".toList
    ["//!> A scope.".toList, "namespace Zoo".toList, "\x7b".toList, "//! A function.".toList,
      "void feed();".toList]).tree

/-- A class for the namespace, which is to become the cursor. -/
def zooClass : Item where
  qualifiedName := some "Cat".toList
  kind := some .classType
  directives := ">".toList

/-- The class becomes the last child of the namespace, and nothing else changes. -/
theorem place_local_zooClass :
    zoo.HasCursor (some [0]) ∧ ∃ placed x, zoo.place (some [0]) zooClass = .ok placed ∧
      zoo.AppendedTo placed.tree [0] x [0, 1] ∧ placed.cursor = some [0, 1] := by
  have hplace : (zoo.place (some [0]) zooClass).toOption.map Placement.position = some [0, 1] := by
    decide +kernel
  have htarget : Directive.carryOut zoo zooClass.directives (some [0]) =
      .ok { parent := some [0], adopts := true } := rfl
  have hnode : (zoo.get? [0]).isSome = true := by decide +kernel
  have hnone : (zoo.get? [0, 1]).isNone = true := by decide +kernel
  have hcursor : zoo.HasCursor (some [0]) := by
    rintro p ⟨⟩
    exact Option.isSome_iff_exists.mp hnode
  refine ⟨hcursor, ?_⟩
  cases hplaced : zoo.place (some [0]) zooClass with
  | error e => rw [hplaced] at hplace; exact absurd hplace (by simp [Except.toOption])
  | ok placed =>
    rw [hplaced] at hplace
    have hposition : placed.position = [0, 1] := Option.some.inj hplace
    obtain ⟨⟨target, parent, x, htarget', hwalk, -, hcases⟩, hnext⟩ :=
      (place_local zoo (some [0]) zooClass hcursor).2.2 placed hplaced
    obtain rfl := Except.ok.inj (htarget.symm.trans htarget')
    have hscopes : zooClass.scopes = [] := by decide
    rw [hscopes] at hwalk
    cases hwalk
    rw [hposition] at hcases hnext
    refine ⟨placed, x, rfl, ?_, hnext⟩
    rcases hcases with ⟨happended, -⟩ | ⟨⟨-, ⟨F, hF, -⟩, -⟩, -⟩
    · exact happended
    · rw [face?, Option.isNone_iff_eq_none.mp hnone] at hF
      exact absurd hF (by simp)

end Tree

end DocTree
