/-
Trees that track one another.

A tree tracks another one when it has all the scopes of that tree, under the same keys, at
positions that may be different.  Looking for a scope then leads to the same one in both trees:

* `Tree.Tracks` — the relation of the two trees;
* `Tree.Tracks.scopeWalk`, `Tree.Tracks.find`, `Tree.Tracks.carryOut` — qualified names, paths and
  directives lead to the same scopes;
* `Tree.Tracks.destination` — so items go to the same place in both trees, and if the scopes down
  to it bear the same names, they appear there in the same way;
* `Tree.place_moved` — and are placed there if they land at the same node.
-/
import DocTree.Proofs.Locality

namespace DocTree

/-- Of two computations that go hand in hand, the second succeeds where the first does. -/
theorem foldlM_simulates {α β γ : Type} {f : α → γ → Except Error α} {g : β → γ → Except Error β}
    {R : α → β → Prop}
    (hstep : ∀ a b c a', R a b → f a c = .ok a' → ∃ b', g b c = .ok b' ∧ R a' b') {cs : List γ} :
    ∀ {a a' : α} {b : β}, R a b → cs.foldlM f a = .ok a' →
      ∃ b', cs.foldlM g b = .ok b' ∧ R a' b' := by
  induction cs with
  | nil =>
    intro a a' b hab h
    obtain rfl := Except.ok.inj h
    exact ⟨b, rfl, hab⟩
  | cons c cs ih =>
    intro a a' b hab h
    rw [List.foldlM_cons] at h
    obtain ⟨a₁, h₁, h⟩ := bind_eq_ok.mp h
    obtain ⟨b₁, hb₁, hab₁⟩ := hstep a b c a₁ hab h₁
    obtain ⟨b', hb', hab'⟩ := ih hab₁ h
    exact ⟨b', by rw [List.foldlM_cons]; exact bind_eq_ok.mpr ⟨b₁, hb₁, hb'⟩, hab'⟩

/-- The target, moved. -/
def Target.move (σ : Position → Position) (target : Target) : Target :=
  { target with parent := target.parent.map σ }

namespace Tree

variable {t u : Tree} {σ : Position → Position} {p q parent : Position} {cursor : Cursor}
  {item x : Item} {segments : List Text}

/-- Every scope of `t` is one of `u`, under the same key, at the position to which `σ` takes it,
below that of its parent. -/
structure Tracks (σ : Position → Position) (t u : Tree) : Prop where
  nil : σ [] = []
  concat : ∀ p i, ∃ j, σ (p ++ [i]) = σ p ++ [j]
  namesScope : ∀ p k i, t.NamesScope p k i →
    ∃ j, u.NamesScope (σ p) k j ∧ σ (p ++ [i]) = σ p ++ [j]

theorem Tracks.dropLast (h : Tracks σ t u) (p : Position) : σ p.dropLast = (σ p).dropLast := by
  rcases List.eq_nil_or_concat p with rfl | ⟨r, i, rfl⟩
  · simp [h.nil]
  · obtain ⟨j, hj⟩ := h.concat r i
    rw [List.concat_eq_append, hj, List.dropLast_concat, List.dropLast_concat]

theorem Tracks.enclosing (h : Tracks σ t u) (cursor : Cursor) :
    Directive.enclosing (cursor.map σ) = (Directive.enclosing cursor).map σ := by
  cases cursor with
  | none => rfl
  | some p =>
    simp only [Directive.enclosing, Option.map_some, ← h.dropLast]
    rcases List.eq_nil_or_concat p.dropLast with hnil | ⟨r, i, hr⟩
    · simp [hnil, h.nil]
    · rw [hr, List.concat_eq_append]
      obtain ⟨j, hj⟩ := h.concat r i
      cases hd : r ++ [i] <;> cases hd' : σ (r ++ [i]) <;> simp_all

theorem Tracks.getD (h : Tracks σ t u) (cursor : Cursor) :
    (cursor.map σ).getD [] = σ (cursor.getD []) := by
  cases cursor <;> simp [h.nil]

/-- Walks along scopes lead to the same ones. -/
theorem Tracks.scopeWalk (h : Tracks σ t u) (hwalk : t.ScopeWalk p segments q) :
    u.ScopeWalk (σ p) segments (σ q) := by
  induction hwalk with
  | done p => exact .done _
  | restart _ ih =>
    rw [h.nil] at ih
    exact .restart ih
  | descend hs hi _ ih =>
    obtain ⟨j, hj, hmoved⟩ := h.namesScope _ _ _ hi
    rw [hmoved] at ih
    exact .descend hs hj ih

theorem Tracks.find (h : Tracks σ t u) {path : Text} (hfind : t.find p path = .ok q) :
    u.find (σ p) path = .ok (σ q) := by
  have hstep : ∀ r r' segment r₁, r' = σ r → t.findStep path r segment = .ok r₁ →
      ∃ r₁', u.findStep path r' segment = .ok r₁' ∧ r₁' = σ r₁ := by
    rintro r _ segment r₁ rfl hfound
    obtain ⟨hne, i, hi, rfl⟩ := findStep_eq_ok_iff.mp hfound
    obtain ⟨j, hj, hmoved⟩ := h.namesScope _ _ _ hi
    exact ⟨σ r ++ [j], findStep_eq_ok_iff.mpr ⟨hne, j, hj, rfl⟩, hmoved.symm⟩
  obtain ⟨q', hq', rfl⟩ := foldlM_simulates hstep rfl hfind
  exact hq'

/-- Directives lead to the same scopes. -/
theorem Tracks.carryOut (h : Tracks σ t u) {source : Text} {target : Target}
    (htarget : Directive.carryOut t source cursor = .ok target) :
    Directive.carryOut u source (cursor.map σ) = .ok (target.move σ) := by
  have hstep : ∀ target target' d next, target' = target.move σ →
      Directive.step t source cursor target d = .ok next →
      ∃ next', Directive.step u source (cursor.map σ) target' d = .ok next' ∧
        next' = next.move σ := by
    rintro target _ d next rfl hnext
    cases d with
    | asIs | adopt | top =>
      obtain rfl := Except.ok.inj hnext
      exact ⟨_, rfl, rfl⟩
    | up =>
      obtain rfl := Except.ok.inj hnext
      refine ⟨_, rfl, ?_⟩
      simp only [Target.move, h.enclosing]
    | descend path =>
      simp only [Directive.step] at hnext
      cases hfind : t.find (target.parent.getD []) path with
      | error e => simp [hfind] at hnext
      | ok q =>
        rw [hfind] at hnext
        obtain rfl := Except.ok.inj hnext
        refine ⟨{ target.move σ with parent := some (σ q) }, ?_, rfl⟩
        simp only [Directive.step, Target.move, h.getD, h.find hfind]
    | unclosed => simp [Directive.step] at hnext
  obtain ⟨target', htarget', rfl⟩ := foldlM_simulates hstep rfl htarget
  exact htarget'

/-- Items go to the same place in both trees, and appear there in the same way if the names on the
way are the same. -/
theorem Tracks.destination (h : Tracks σ t u)
    (hdest : t.destination cursor item = .ok (parent, x))
    (hnames : u.namesAlong (σ parent) = t.namesAlong parent) :
    u.destination (cursor.map σ) item = .ok (σ parent, x) := by
  obtain ⟨target, htarget, hwalk, rfl⟩ := destination_eq_ok_iff.mp hdest
  refine destination_eq_ok_iff.mpr ⟨target.move σ, h.carryOut htarget, ?_, ?_⟩
  · have hstart : (target.move σ).parent.getD [] = σ (target.parent.getD []) := h.getD _
    rw [hstart]
    exact h.scopeWalk hwalk
  · simp only [settle, hnames, Target.move]

/-- An item that goes to the moved place, and lands at the moved position, is placed there, and the
cursor moves along. -/
theorem place_moved {placed : Placement}
    (hdest : u.destination (cursor.map σ) item = .ok (parent, x))
    (hposition : (u.insert parent x).2 = σ placed.position)
    (hnext : placed.cursor =
      if Directive.asksToAdopt item.directives then some placed.position else cursor) :
    u.place (cursor.map σ) item =
      .ok ⟨(u.insert parent x).1, σ placed.position, placed.cursor.map σ⟩ := by
  refine place_eq_ok_iff.mpr ⟨parent, x, hdest, rfl, hposition.symm, ?_⟩
  rw [hnext]
  split <;> rfl

end Tree

end DocTree
