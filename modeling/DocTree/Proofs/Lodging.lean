/-
Trees within trees.

The top-level nodes of a tree, with all below them, may stand in another tree: in another order,
or next to nodes of its own.  A run does not notice as long as it uses no key of those other nodes:

* `Tree.Lodges` — one tree within another, at the indices to which a renaming takes its top level;
* `Tree.Lodges.destination`, `Tree.Lodges.insert` — items go to the same place, and what they do
  there is the same;
* `Source.Steps.lodge`, `Source.Reads.lodge` — so a run can be carried out in the larger tree;
* `Source.Reads.beside` — files whose keys a tree does not have add their own tree to it.
-/
import DocTree.Proofs.Recognition
import DocTree.Proofs.Tracking

namespace DocTree

namespace Tree

variable {t u host node : Tree} {σ : Nat → Nat} {q parent : Position} {cursor : Cursor}
  {item x : Item} {k : Text} {i : Nat}

/-! ### The top level -/

/-- An insertion leaves the top level as it is, with the key of an item that goes there among its
keys, or adds a node to it. -/
theorem top_insert_cases (t : Tree) (parent : Position) (x : Item) :
    ((t.insert parent x).1.childIndex? = t.childIndex? ∧
        (t.insert parent x).1.children.length = t.children.length ∧
        (parent = [] → ∀ k, registeredKey x = some k → (t.childIndex? k).isSome)) ∨
      (t.insert parent x).1.face = t.face.extend x := by
  have hkept : ∀ {u : Tree}, u.face? [] = t.face? [] →
      u.childIndex? = t.childIndex? ∧ u.children.length = t.children.length := by
    intro u hface
    have hface : u.face = t.face := Option.some.inj hface
    exact ⟨congrArg Face.table hface, congrArg Face.size hface⟩
  cases hparent : t.get? parent with
  | none =>
    have hsame : (t.insert parent x).1 = t := by simp [insert, hparent]
    rw [hsame]
    refine .inl ⟨rfl, rfl, ?_⟩
    rintro rfl
    exact absurd hparent (by simp)
  | some node =>
    obtain ⟨i, hi⟩ := insert_position hparent x
    rcases insert_cases hparent x with ⟨-, hmerged⟩ | ⟨-, happended⟩
    · obtain ⟨htable, hsize⟩ := hkept (hmerged.frame [] (by simp [hi]))
      refine .inl ⟨htable, hsize, ?_⟩
      rintro rfl k hk
      -- the item was merged with the child under its key
      obtain ⟨F, k', j, hF, hk', hj, -⟩ := hmerged.registered
      obtain rfl := Option.some.inj hF
      obtain rfl := Option.some.inj (hk.symm.trans hk')
      exact Option.isSome_iff_exists.mpr ⟨j, hj⟩
    · by_cases hroot : parent = []
      · subst hroot
        obtain ⟨F, hF, -, hF'⟩ := happended.last
        obtain rfl := Option.some.inj hF
        exact .inr (Option.some.inj hF')
      · obtain ⟨htable, hsize⟩ := hkept (happended.frame [] (Ne.symm hroot) (by simp [hi]))
        exact .inl ⟨htable, hsize, fun h => absurd h hroot⟩

/-- A key at the top level stays there, and that of an item put there joins them. -/
theorem isSome_childIndex?_insert
    (h : (t.childIndex? k).isSome ∨ (parent = [] ∧ registeredKey x = some k)) :
    ((t.insert parent x).1.childIndex? k).isSome := by
  rcases top_insert_cases t parent x with ⟨htable, -, hroot⟩ | hface
  · rw [htable]
    rcases h with h | ⟨hparent, hk⟩
    · exact h
    · exact hroot hparent k hk
  · have htable : (t.insert parent x).1.childIndex? k = (t.face.extend x).table k :=
      congrFun (congrArg Face.table hface) k
    rw [htable, Face.extend]
    dsimp only
    split
    · rfl
    · rename_i hne
      exact h.resolve_right fun h => hne h.2

theorem length_children_le_insert (t : Tree) (parent : Position) (x : Item) :
    t.children.length ≤ (t.insert parent x).1.children.length := by
  rcases top_insert_cases t parent x with ⟨-, hsize, -⟩ | hface
  · exact Nat.le_of_eq hsize.symm
  · have hsize : (t.insert parent x).1.children.length = t.children.length + 1 :=
      congrArg Face.size hface
    omega

/-! ### One tree within another -/

/-- A top-level node of `host` at an index that `σ` does not reach is registered under the key. -/
def KeyBeside (σ : Nat → Nat) (host : Tree) (k : Text) : Prop :=
  ∃ j c, (∀ i, σ i ≠ j) ∧ host.children[j]? = some c ∧ c.key = some k

/-- The top-level nodes of `t` stand in `u`, each at the index to which `σ` takes its own, and those
at other indices are as they were in `host`.  The indices that come next correspond as well, so
that there is room for further nodes. -/
structure Lodges (σ : Nat → Nat) (host t u : Tree) : Prop where
  injective : Function.Injective σ
  child : ∀ i, u.children[σ i]? = t.children[i]?
  next : ∀ n, σ (t.children.length + n) = u.children.length + n
  beside : ∀ j, (∀ i, σ i ≠ j) → u.children[j]? = host.children[j]?
  keys : KeysDistinct u.entries

theorem Lodges.get? (h : Lodges σ host t u) (hq : q ≠ []) :
    u.get? (q.modifyHead σ) = t.get? q := by
  cases q with
  | nil => exact absurd rfl hq
  | cons i q => simp only [List.modifyHead_cons, Tree.get?, h.child]

/-- Scopes are found under the same keys. -/
theorem Lodges.tracks (h : Lodges σ host t u) : Tracks (List.modifyHead σ) t u where
  nil := rfl
  concat := by
    intro p i
    cases p with
    | nil => exact ⟨σ i, rfl⟩
    | cons j p => exact ⟨i, rfl⟩
  namesScope := by
    rintro p k i ⟨F, G, hF, htable, hG, hfun⟩
    have hface : ∀ {q : Position}, q ≠ [] → u.face? (q.modifyHead σ) = t.face? q := by
      intro q hq
      rw [face?, face?, h.get? hq]
    cases p with
    | nil =>
      obtain rfl := Option.some.inj hF
      obtain ⟨c, hc, hkey⟩ := exists_child_of_table htable
      refine ⟨σ i, ⟨u.face, G, rfl, ?_, (hface (q := [i]) (by simp)).trans hG, hfun⟩, rfl⟩
      exact (childIndex?_eq_some_iff_key h.keys).mpr ⟨c, (h.child i).trans hc, hkey⟩
    | cons j p =>
      exact ⟨i, ⟨F, G, (hface (by simp)).trans hF, htable,
        (hface (q := j :: p ++ [i]) (by simp)).trans hG, hfun⟩, rfl⟩

theorem Lodges.namesAlong (h : Lodges σ host t u) (p : Position) :
    u.namesAlong (p.modifyHead σ) = t.namesAlong p := by
  cases p with
  | nil => rfl
  | cons i p => simp only [List.modifyHead_cons, Tree.namesAlong, h.child]

/-- Items go to the same place in both trees, and appear there in the same way. -/
theorem Lodges.destination (h : Lodges σ host t u)
    (hdest : t.destination cursor item = .ok (parent, x)) :
    u.destination (cursor.map (List.modifyHead σ)) item = .ok (parent.modifyHead σ, x) :=
  h.tracks.destination hdest (h.namesAlong parent)

/-! ### Insertions -/

/-- A change of one top-level node, on either side, that does not touch its key. -/
theorem Lodges.modify {g : Tree → Tree} (hg : ∀ n, (g n).key = n.key) (h : Lodges σ host t u)
    (i : Nat) :
    Lodges σ host { t with children := t.children.modify i g }
      { u with children := u.children.modify (σ i) g } where
  injective := h.injective
  child := by
    intro j
    simp only [List.getElem?_modify, h.child, h.injective.eq_iff]
  next := by
    intro n
    simp only [List.length_modify]
    exact h.next n
  beside := by
    intro j hj
    simp only [List.getElem?_modify, if_neg (hj i), h.beside j hj, id_map']
  keys := by
    -- the keys are those from before
    have hkey : ∀ {j : Nat} {e : Entry},
        ({ u with children := u.children.modify (σ i) g } : Tree).entries[j]? = some e →
        ∃ c, u.children[j]? = some c ∧ e.key = c.key := by
      intro j e he
      obtain ⟨c', hc', rfl⟩ := getElem?_entries_eq_some.mp he
      rw [List.getElem?_modify] at hc'
      obtain ⟨c, hc, rfl⟩ := Option.map_eq_some_iff.mp hc'
      refine ⟨c, hc, ?_⟩
      split
      · exact hg c
      · rfl
    intro a b e e' k ha hb hke hke'
    obtain ⟨c, hc, hec⟩ := hkey ha
    obtain ⟨d, hd, hed⟩ := hkey hb
    exact h.keys (getElem?_entries_of_child hc) (getElem?_entries_of_child hd)
      (hec.symm.trans hke) (hed.symm.trans hke')

/-- A further top-level node, on either side, that takes its key from no node beside. -/
theorem Lodges.append (h : Lodges σ host t u)
    (hfree : ∀ k, registeredKey x = some k → ¬ host.KeyBeside σ k)
    (hkeys : KeysDistinct (u.append x).entries) : Lodges σ host (t.append x) (u.append x) where
  injective := h.injective
  child := by
    intro j
    have hlast : σ t.children.length = u.children.length := h.next 0
    rcases Nat.lt_trichotomy j t.children.length with hlt | rfl | hgt
    · have hj := h.child j
      rw [List.getElem?_eq_getElem hlt] at hj
      obtain ⟨hlt', -⟩ := List.getElem?_eq_some_iff.mp hj
      rw [Tree.append, Tree.append, List.getElem?_append_left (by simpa using hlt'),
        List.getElem?_append_left (by simpa using hlt), List.getElem?_map, List.getElem?_map,
        h.child j]
    · rw [hlast]
      simp [Tree.append]
    · obtain ⟨n, rfl⟩ := Nat.exists_eq_add_of_lt hgt
      have hnext := h.next (n + 1)
      rw [← Nat.add_assoc] at hnext
      rw [hnext, List.getElem?_eq_none (by simp [Tree.append]),
        List.getElem?_eq_none (by simp [Tree.append])]
  next := by
    intro n
    simp only [Tree.append, List.length_append, List.length_map, List.length_singleton]
    rw [Nat.add_assoc, Nat.add_assoc]
    exact h.next (1 + n)
  beside := by
    intro j hj
    have hlast : σ t.children.length = u.children.length := h.next 0
    rcases Nat.lt_trichotomy j u.children.length with hlt | rfl | hgt
    · rw [Tree.append, List.getElem?_append_left (by simpa using hlt), List.getElem?_map,
        h.beside j hj]
      cases hc : host.children[j]? with
      | none => rfl
      | some c =>
        -- the node has another key, and keeps it
        have hne : ¬ ((registeredKey x).isSome && c.key == registeredKey x) = true := by
          intro hsame
          obtain ⟨hsome, heq⟩ := Bool.and_eq_true_iff.mp hsame
          obtain ⟨k, hk⟩ := Option.isSome_iff_exists.mp hsome
          exact hfree k hk ⟨j, c, hj, hc, (beq_iff_eq.mp heq).trans hk⟩
        rw [Option.map_some, release, if_neg hne]
    · exact absurd hlast (hj _)
    · obtain ⟨n, rfl⟩ := Nat.exists_eq_add_of_lt hgt
      exact absurd (h.next (n + 1)) (hj _)
  keys := hkeys

/-- A key that no node beside has leads to the same node. -/
theorem Lodges.child? (h : Lodges σ host t u) (hk : ¬ host.KeyBeside σ k) :
    u.child? k = (t.child? k).map fun found => (σ found.1, found.2) := by
  cases hchild : t.child? k with
  | some found =>
    obtain ⟨i, c⟩ := found
    obtain ⟨hc, hkey, -⟩ := child?_eq_some.mp hchild
    have hc' : u.children[σ i]? = some c := (h.child i).trans hc
    obtain ⟨d, hd⟩ := childIndex?_eq_some.mp
      ((childIndex?_eq_some_iff_key h.keys).mpr ⟨c, hc', hkey⟩)
    obtain rfl := Option.some.inj ((child?_eq_some.mp hd).1.symm.trans hc')
    exact hd
  | none =>
    rw [Option.map_none, child?_eq_none]
    intro e he hkey
    obtain ⟨j, hj⟩ := List.mem_iff_getElem?.mp he
    obtain ⟨c, hc, rfl⟩ := getElem?_entries_eq_some.mp hj
    by_cases hreached : ∃ i, σ i = j
    · obtain ⟨i, rfl⟩ := hreached
      have hi := getElem?_entries_of_child ((h.child i).symm.trans hc)
      exact child?_eq_none.mp hchild _ (List.mem_of_getElem? hi) hkey
    · have hbeside : ∀ i, σ i ≠ j := fun i hi => hreached ⟨i, hi⟩
      exact hk ⟨j, c, hbeside, (h.beside j hbeside).symm.trans hc, hkey⟩

/-- An item at the top level merges with the same node in both trees, or is added to both. -/
theorem Lodges.accept_cases (h : Lodges σ host t u)
    (hfree : ∀ k, registeredKey x = some k → ¬ host.KeyBeside σ k) :
    (∃ i, t.accept x = (t.modify (·.mergeItem x) [i], i) ∧
        u.accept x = (u.modify (·.mergeItem x) [σ i], σ i)) ∨
      (t.accept x = (t.append x, t.children.length) ∧
        u.accept x = (u.append x, u.children.length)) := by
  cases hkey : registeredKey x with
  | none => exact .inr (by simp [accept, arrival, hkey])
  | some k =>
    have hsame := h.child? (hfree k hkey)
    cases hchild : t.child? k with
    | none =>
      rw [hchild] at hsame
      exact .inr (by simp [accept, arrival, hkey, hchild, hsame])
    | some found =>
      obtain ⟨i, c⟩ := found
      rw [hchild] at hsame
      by_cases hmin : c.item.minimal = x.minimal
      · exact .inl ⟨i, by simp [accept, arrival, hkey, hchild, hsame, hmin]⟩
      · by_cases hfun : x.isFunction = true
        · exact .inr (by simp [accept, arrival, hkey, hchild, hsame, hmin, hfun])
        · exact .inl ⟨i, by simp [accept, arrival, hkey, hchild, hsame, hmin, hfun]⟩

/-- The step: an item is inserted at the same place in both trees, with the same effect. -/
theorem Lodges.insert (h : Lodges σ host t u) (hparent : t.get? parent = some node)
    (hfree : parent = [] → ∀ k, registeredKey x = some k → ¬ host.KeyBeside σ k) :
    (u.insert (parent.modifyHead σ) x).2 = (t.insert parent x).2.modifyHead σ ∧
      Lodges σ host (t.insert parent x).1 (u.insert (parent.modifyHead σ) x).1 := by
  cases parent with
  | nil =>
    have htop : ∀ v : Tree, v.insert [] x = ((v.accept x).1, [(v.accept x).2]) := by
      intro v
      simp [Tree.insert, Tree.modify]
    rw [List.modifyHead_nil, htop, htop]
    rcases h.accept_cases (hfree rfl) with ⟨i, ht, hu⟩ | ⟨ht, hu⟩
    · rw [ht, hu]
      exact ⟨rfl, h.modify (g := (·.mergeItem x)) (fun _ => rfl) i⟩
    · have hkeys := h.keys.joins (joins_accept h.keys x)
      rw [hu] at hkeys
      rw [ht, hu]
      exact ⟨congrArg (fun j => [j]) (h.next 0).symm, h.append (hfree rfl) hkeys⟩
  | cons i p =>
    have hparent' := (h.get? (q := i :: p) (by simp)).trans hparent
    rw [List.modifyHead_cons] at hparent' ⊢
    simp only [Tree.insert, hparent, hparent', Tree.modify]
    refine ⟨rfl, h.modify (fun n => ?_) i⟩
    exact congrArg Entry.key (entry_modify (fun n => entry_accept n x) n p)

end Tree

/-! ### Runs -/

namespace Source

open DocTree.Tree

variable {t t' u host a b : Tree} {σ : Nat → Nat} {cursor : Cursor} {items : List Item}
  {L : Landings} {files : List SourceFile} {Ls Ms : List Landings}

/-- A run over items is carried out in the larger tree. -/
theorem Steps.lodge (h : Steps t cursor items L t') (hu : Lodges σ host t u)
    (hcursor : t.HasCursor cursor)
    (hfree : ∀ k, host.KeyBeside σ k → t'.childIndex? k = none) :
    ∃ L' u', Steps u (cursor.map (List.modifyHead σ)) items L' u' ∧ Lodges σ host t' u' := by
  induction h generalizing u with
  | done t cursor => exact ⟨[], u, .done _ _, hu⟩
  | @step t t' cursor item x rest parent placed L hdest hplace h ih =>
    obtain ⟨node, hnode, htree, hposition, hnext⟩ := hcursor.insert_of_place hdest hplace
    -- a key that is taken at the top level is there in the end, so no node beside has it
    have hkeys : parent = [] → ∀ k, registeredKey x = some k → ¬ host.KeyBeside σ k := by
      rintro rfl k hk hbeside
      have hsome : (placed.tree.childIndex? k).isSome := by
        rw [htree]
        exact isSome_childIndex?_insert (.inr ⟨rfl, hk⟩)
      have hend := h.keeps (P := fun t => (t.childIndex? k).isSome)
        (fun _ _ _ h => isSome_childIndex?_insert (.inl h)) hsome
      rw [hfree k hbeside] at hend
      exact absurd hend (by simp)
    obtain ⟨hmoved, hinsert⟩ := hu.insert hnode hkeys
    rw [← htree] at hinsert
    rw [← hposition] at hmoved
    have hplace' := place_moved (hu.destination hdest) hmoved hnext
    obtain ⟨L', u', hsteps, hlodges⟩ := ih hinsert (hcursor.place hplace) hfree
    exact ⟨_, u', .step (hu.destination hdest) hplace' hsteps, hlodges⟩

/-- A run over files is carried out in the larger tree. -/
theorem Reads.lodge (h : Reads t files Ls t') (hu : Lodges σ host t u)
    (hfree : ∀ k, host.KeyBeside σ k → t'.childIndex? k = none) :
    ∃ Ls' u', Reads u files Ls' u' ∧ Lodges σ host t' u' := by
  induction h generalizing u with
  | done t => exact ⟨[], u, .done _, hu⟩
  | @file t t₁ t' file lines rest L Ls hsteps h ih =>
    have hkept : ∀ k, host.KeyBeside σ k → t₁.childIndex? k = none := by
      intro k hbeside
      by_contra hne
      have hend := h.keeps (P := fun t => (t.childIndex? k).isSome)
        (fun _ _ _ h => isSome_childIndex?_insert (.inl h)) (Option.isSome_iff_ne_none.mpr hne)
      rw [hfree k hbeside] at hend
      exact absurd hend (by simp)
    obtain ⟨L', u₁, hsteps', hu₁⟩ := hsteps.lodge hu (fun p hp => by simp at hp) hkept
    obtain ⟨Ls', u', hreads, hu'⟩ := ih hu₁ hfree
    exact ⟨L' :: Ls', u', .file hsteps' hreads, hu'⟩

theorem Reads.keysDistinct (h : Reads .empty files Ls t) : KeysDistinct t.entries := by
  have hkeyed : t.Everywhere WellKeyed :=
    h.keeps (fun _ parent x h => h.wellKeyed_insert parent x) (everywhere_empty .nil)
  exact (hkeyed [] t (get?_nil t)).keys

/-- Files that use no key of a tree at the top level can be read into it, and their own tree is
added at its end. -/
theorem Reads.beside (ha : KeysDistinct a.entries) (hb : Reads .empty files Ms b)
    (hkeys : ∀ c ∈ a.children, ∀ d ∈ b.children, c.key ≠ none → c.key ≠ d.key) :
    ∃ Ms' u, Reads a files Ms' u ∧ u.children = a.children ++ b.children := by
  have hempty : Lodges (a.children.length + ·) a .empty a := by
    refine ⟨fun i j hij => Nat.add_left_cancel hij, fun i => ?_, fun n => ?_, fun j _ => rfl, ha⟩
    · rw [List.getElem?_eq_none (Nat.le_add_right _ _)]
      rfl
    · show a.children.length + (0 + n) = a.children.length + n
      rw [Nat.zero_add]
  have hfree : ∀ k, a.KeyBeside (a.children.length + ·) k → b.childIndex? k = none := by
    rintro k ⟨j, c, -, hc, hkey⟩
    rw [childIndex?, List.findIdx?_eq_none_iff]
    intro d hd
    have hne := hkeys c (List.mem_of_getElem? hc) d hd (by simp [hkey])
    rw [hkey] at hne
    simpa using Ne.symm hne
  obtain ⟨Ms', u, hreads, hu⟩ := hb.lodge hempty hfree
  refine ⟨Ms', u, hreads, List.ext_getElem? fun j => ?_⟩
  by_cases hj : j < a.children.length
  · rw [List.getElem?_append_left hj, hu.beside j fun i => by omega]
  · obtain ⟨i, rfl⟩ := Nat.exists_eq_add_of_le (Nat.not_lt.mp hj)
    rw [hu.child i, List.getElem?_append_right (Nat.le_add_right _ _), Nat.add_sub_cancel_left]

end Source

end DocTree
