/-
Mirrored trees.

A tree mirrors another one when it has, elsewhere perhaps, a node of the same identity for each
of its nodes.  Placements depend on no more than that, as long as they start at scopes:

* `Tree.Scoped` — all nodes down to a position are scopes, and searches that start at scopes lead
  to scopes;
* `Tree.Mirrors` — the relation of the two trees;
* `Tree.Mirrors.tracks` — scopes are found under the same keys, and `Tree.Mirrors.namesAlong` —
  bear the same names;
* `Tree.Mirrors.destination` — so items go to the same place in both trees, and appear there in
  the same way.
-/
import DocTree.Proofs.Recognition
import DocTree.Proofs.Tracking

namespace DocTree

namespace Tree

variable {t u : Tree} {σ : Position → Position} {p q parent : Position} {cursor : Cursor}
  {item x y : Item} {k : Text} {i : Nat} {segments : List Text}

/-! ### Scopes -/

/-- All nodes down to the one at `p` are scopes. -/
def Scoped (t : Tree) (p : Position) : Prop :=
  ∀ q, q <+: p → ∃ y, t.item? q = some y ∧ y.isFunction = false

theorem Scoped.anti (h : t.Scoped p) (hq : q <+: p) : t.Scoped q :=
  fun r hr => h r (hr.trans hq)

theorem Scoped.concat (h : t.Scoped p) (hy : t.item? (p ++ [i]) = some y)
    (hfun : y.isFunction = false) : t.Scoped (p ++ [i]) := by
  intro q hq
  rcases List.prefix_concat_iff.mp hq with rfl | hq
  · exact ⟨y, hy, hfun⟩
  · exact h q hq

theorem Keyed.scoped_nil (h : t.Keyed) : t.Scoped [] := by
  intro q hq
  obtain rfl := List.prefix_nil.mp hq
  exact h.root

theorem NamesScope.scoped (h : t.NamesScope p k i) (hp : t.Scoped p) : t.Scoped (p ++ [i]) := by
  obtain ⟨-, G, -, -, hG, hfun⟩ := h
  exact hp.concat (y := G.item) (by rw [item?, hG]; rfl) hfun

/-- The cursor is at the root or at a scope. -/
def ScopeCursor (t : Tree) (cursor : Cursor) : Prop := ∀ p, cursor = some p → t.Scoped p

theorem ScopeCursor.getD (h : t.ScopeCursor cursor) (ht : t.Keyed) :
    t.Scoped (cursor.getD []) := by
  cases cursor with
  | none => exact ht.scoped_nil
  | some p => exact h p rfl

theorem ScopeCursor.hasCursor (h : t.ScopeCursor cursor) : t.HasCursor cursor := by
  intro p hp
  obtain ⟨y, hy, -⟩ := h p hp p (List.prefix_refl p)
  obtain ⟨node, hnode, -⟩ := exists_get?_of_item? hy
  exact ⟨node, hnode⟩

theorem ScopeCursor.enclosing (h : t.ScopeCursor cursor) :
    t.ScopeCursor (Directive.enclosing cursor) := by
  intro q hq
  obtain ⟨p, hp, rfl⟩ := exists_of_enclosing_eq_some hq
  exact (h p hp).anti (List.dropLast_prefix p)

/-- Walks along scopes lead from scopes to scopes. -/
theorem ScopeWalk.scoped (h : t.ScopeWalk p segments q) (ht : t.Keyed) (hp : t.Scoped p) :
    t.Scoped q := by
  induction h with
  | done => exact hp
  | restart _ ih => exact ih ht.scoped_nil
  | descend _ hi _ ih => exact ih (hi.scoped hp)

theorem scoped_of_find {path : Text} (hp : t.Scoped p) (h : t.find p path = .ok q) :
    t.Scoped q := by
  refine foldlM_keeps (P := t.Scoped) ?_ hp h
  intro r segment r' hr hstep
  obtain ⟨-, i, hi, rfl⟩ := findStep_eq_ok_iff.mp hstep
  exact hi.scoped hr

/-- Directives lead from scopes to scopes. -/
theorem ScopeCursor.carryOut {source : Text} {target : Target} (h : t.ScopeCursor cursor)
    (ht : t.Keyed) (htarget : Directive.carryOut t source cursor = .ok target) :
    t.ScopeCursor target.parent := by
  refine foldlM_keeps (P := fun target : Target => t.ScopeCursor target.parent) ?_ h htarget
  intro target d target' hparent hstep
  cases d with
  | asIs => exact Except.ok.inj hstep ▸ h
  | adopt => exact Except.ok.inj hstep ▸ hparent
  | up => exact Except.ok.inj hstep ▸ hparent.enclosing
  | top =>
    obtain rfl := Except.ok.inj hstep
    intro p hp
    exact absurd hp (by simp)
  | descend path =>
    simp only [Directive.step] at hstep
    cases hfind : t.find (target.parent.getD []) path with
    | error e => simp [hfind] at hstep
    | ok q =>
      rw [hfind] at hstep
      obtain rfl := Except.ok.inj hstep
      intro p hp
      obtain rfl := Option.some.inj hp
      exact scoped_of_find (hparent.getD ht) hfind
  | unclosed => simp [Directive.step] at hstep

/-! ### Mirrored trees -/

/-- For each node of `t` there is one of the same identity in `u`, at the position to which `σ`
takes it, below that of its parent.  Both trees find their nodes under their keys. -/
structure Mirrors (σ : Position → Position) (t u : Tree) : Prop where
  nil : σ [] = []
  concat : ∀ p i, ∃ j, σ (p ++ [i]) = σ p ++ [j]
  item : ∀ q y, t.item? q = some y → ∃ z, u.item? (σ q) = some z ∧ z.identity = y.identity
  keyed : t.Keyed
  keyed' : u.Keyed

/-- Scopes are found under the same keys. -/
theorem Mirrors.tracks (h : Mirrors σ t u) : Tracks σ t u where
  nil := h.nil
  concat := h.concat
  namesScope := by
    rintro p k i ⟨F, G, hF, htable, hG, hfun⟩
    obtain ⟨y, hy, hkey⟩ := (h.keyed.table p F k i hF).mp htable
    obtain rfl : G.item = y := by
      rw [item?, hG] at hy
      exact Option.some.inj hy
    obtain ⟨z, hz, hid⟩ := h.item _ _ hy
    obtain ⟨hzfun, hzkey⟩ := Prod.mk.inj hid
    -- the mirrored node is below that of its parent, which finds it under the same key
    obtain ⟨j, hj⟩ := h.concat p i
    rw [hj] at hz
    obtain ⟨node, hnode⟩ := exists_get?_of_concat hz
    obtain ⟨F', hF', hz'⟩ := Option.map_eq_some_iff.mp hz
    refine ⟨j, ⟨node.face, F', face?_of_get? hnode, ?_, hF', ?_⟩, hj⟩
    · exact (h.keyed'.table (σ p) node.face k j (face?_of_get? hnode)).mpr
        ⟨z, hz, hzkey.trans hkey⟩
    · rw [hz']
      exact hzfun.trans hfun

/-- One node further, one name more. -/
theorem namesAlong_concat (h : t.item? (p ++ [i]) = some y) :
    t.namesAlong (p ++ [i]) = t.namesAlong p ++ (y.name.filter fun n => !n.isEmpty).toList := by
  induction p generalizing t with
  | nil =>
    rw [item?_concat (get?_nil t)] at h
    obtain ⟨c, hc, rfl⟩ := Option.map_eq_some_iff.mp h
    simp only [List.nil_append, Tree.namesAlong, hc]
    rcases c.item.name with _ | _ | ⟨a, rest⟩ <;> rfl
  | cons j p ih =>
    rw [List.cons_append, item?, face?_cons] at h
    cases hc : t.children[j]? with
    | none => rw [hc] at h; exact absurd h (by simp)
    | some c =>
      rw [hc] at h
      have hrest : c.namesAlong (p ++ [i]) =
          c.namesAlong p ++ (y.name.filter fun n => !n.isEmpty).toList := ih h
      simp only [List.cons_append, Tree.namesAlong, hc, hrest]
      rcases c.item.name with _ | _ | ⟨a, rest⟩ <;> rfl

theorem Mirrors.namesAlong (h : Mirrors σ t u) (hp : t.Scoped p) :
    u.namesAlong (σ p) = t.namesAlong p := by
  induction p using List.reverseRecOn with
  | nil => rw [h.nil]; rfl
  | append_singleton p i ih =>
    obtain ⟨y, hy, hfun⟩ := hp _ (List.prefix_refl _)
    obtain ⟨z, hz, hid⟩ := h.item _ _ hy
    obtain ⟨j, hj⟩ := h.concat p i
    rw [hj] at hz ⊢
    rw [namesAlong_concat hz, namesAlong_concat hy, ih (hp.anti (List.prefix_append _ _)),
      Item.name_eq_of_identity hid.symm hfun (h.keyed.isSome p i y hy)]

/-- Items go to the same place in both trees, and appear there in the same way. -/
theorem Mirrors.destination (h : Mirrors σ t u) (hcursor : t.ScopeCursor cursor)
    (hdest : t.destination cursor item = .ok (parent, x)) :
    u.destination (cursor.map σ) item = .ok (σ parent, x) ∧ t.Scoped parent := by
  obtain ⟨target, htarget, hwalk, -⟩ := destination_eq_ok_iff.mp hdest
  have hparent := hwalk.scoped h.keyed ((hcursor.carryOut h.keyed htarget).getD h.keyed)
  exact ⟨h.tracks.destination hdest (h.namesAlong hparent), hparent⟩

end Tree

end DocTree
