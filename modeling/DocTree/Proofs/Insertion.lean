/-
What one placement does to the tree.

Placing an item touches the children of a single node.  What matters about a child, seen
from its parent, is its `Entry`: the item and the key it is registered under.  The
statements here say once and for all what a placement can do to entries:

* `Tree.accept_cases` — below its parent an item merges with the child that is registered
  under its key, or it is added as the last child;
* `Tree.get?_insert_cases` — every other node keeps the entries of its children, and a
  new node has none;
* `Tree.destination_of_place` — a placement is an insertion at the item's destination.

Invariants of runs are derived from these and never unfold a placement again.
-/
import DocTree.Placement

namespace DocTree

/-- A computation succeeds when its first part does, and then the rest. -/
theorem bind_eq_ok {α β : Type} {x : Except Error α} {f : α → Except Error β} {b : β} :
    x >>= f = .ok b ↔ ∃ a, x = .ok a ∧ f a = .ok b := by
  cases x <;> simp [bind, Except.bind]

/-- What a parent knows of a child: the item and the key it is registered under. -/
structure Entry where
  item : Item
  key : Option Text

/-- The entry, no longer registered under `key`. -/
def Entry.release (key : Option Text) (e : Entry) : Entry :=
  if key.isSome && e.key == key then { e with key := none } else e

@[simp] theorem Entry.item_release (key : Option Text) (e : Entry) :
    (e.release key).item = e.item := by
  unfold Entry.release
  split <;> rfl

/-- A released entry keeps every key but the one given up. -/
theorem Entry.key_release_eq_some {key : Option Text} {e : Entry} {k : Text} :
    (e.release key).key = some k ↔ e.key = some k ∧ key ≠ some k := by
  unfold Entry.release
  cases key with
  | none => simp
  | some given =>
    by_cases h : e.key = some given
    · simp [h]
    · have hne : (e.key == some given) = false := by simpa using h
      simp only [Option.isSome_some, hne, Bool.and_false, Bool.false_eq_true, if_false]
      constructor
      · intro hk
        exact ⟨hk, fun hgiven => h (by rw [hk, ← hgiven])⟩
      · exact And.left

namespace Tree

variable {t node node' : Tree} {x : Item} {parent q : Position}

/-- The entry of a node with its parent. -/
def entry (t : Tree) : Entry := ⟨t.item, t.key⟩

/-- The entries of the children. -/
def entries (t : Tree) : List Entry := t.children.map entry

theorem getElem?_entries_eq_some {i : Nat} {e : Entry} :
    t.entries[i]? = some e ↔ ∃ c, t.children[i]? = some c ∧ c.entry = e := by
  simp [entries, List.getElem?_map, Option.map_eq_some_iff]

theorem getElem?_entries_of_child {i : Nat} {c : Tree} (h : t.children[i]? = some c) :
    t.entries[i]? = some c.entry :=
  getElem?_entries_eq_some.mpr ⟨c, h, rfl⟩

/-! ### Children by key -/

/-- The child under a key is the first one registered under it. -/
theorem child?_eq_some {key : Text} {i : Nat} {c : Tree} :
    t.child? key = some (i, c) ↔
      t.children[i]? = some c ∧ c.key = some key ∧
        ∀ j < i, ∀ d, t.children[j]? = some d → d.key ≠ some key := by
  rw [child?, Option.bind_eq_some_iff]
  constructor
  · rintro ⟨j, hj, hc⟩
    obtain ⟨d, hd, heq⟩ := Option.map_eq_some_iff.mp hc
    obtain ⟨rfl, rfl⟩ := Prod.mk.inj heq
    obtain ⟨hlt, hkey, hfirst⟩ := List.findIdx?_eq_some_iff_getElem.mp hj
    obtain ⟨_, hget⟩ := List.getElem?_eq_some_iff.mp hd
    refine ⟨hd, by simpa [hget] using hkey, fun k hk e he => ?_⟩
    obtain ⟨_, hget'⟩ := List.getElem?_eq_some_iff.mp he
    simpa [hget'] using hfirst k hk
  · rintro ⟨hc, hkey, hfirst⟩
    obtain ⟨hlt, hget⟩ := List.getElem?_eq_some_iff.mp hc
    refine ⟨i, List.findIdx?_eq_some_iff_getElem.mpr ⟨hlt, by simp [hget, hkey], ?_⟩, by simp [hc]⟩
    intro j hj
    simpa using hfirst j hj _ (List.getElem?_eq_getElem (Nat.lt_trans hj hlt))

theorem child?_eq_none {key : Text} :
    t.child? key = none ↔ ∀ e ∈ t.entries, e.key ≠ some key := by
  have hindex : t.child? key = none ↔ t.childIndex? key = none := by
    rw [child?, Option.bind_eq_none_iff]
    constructor
    · intro h
      cases hi : t.childIndex? key with
      | none => rfl
      | some i =>
        obtain ⟨hlt, -⟩ := List.findIdx?_eq_some_iff_getElem.mp hi
        simpa [List.getElem?_eq_getElem hlt] using h i hi
    · intro h i hi
      simp [h] at hi
  rw [hindex, childIndex?, List.findIdx?_eq_none_iff]
  simp [entries, entry]

/-! ### Arrivals -/

/-- An item merges with the child that is registered under its key, or is added when no
such child is there or, for a function, when that child has another minimal form. -/
theorem accept_cases (t : Tree) (x : Item) :
    (∃ i c k, registeredKey x = some k ∧ t.child? k = some (i, c) ∧
        (x.isFunction = true → c.item.minimal = x.minimal) ∧
        t.accept x = (t.modify (·.mergeItem x) [i], i)) ∨
      ((∀ i c k, registeredKey x = some k → t.child? k = some (i, c) →
          x.isFunction = true ∧ c.item.minimal ≠ x.minimal) ∧
        t.accept x = (t.append x, t.children.length)) := by
  cases hkey : registeredKey x with
  | none => exact .inr ⟨fun i c k h => by simp at h, by simp [accept, arrival, hkey]⟩
  | some k =>
    cases hchild : t.child? k with
    | none => exact .inr ⟨fun i c k' hk' hc => by simp_all, by simp [accept, arrival, hkey, hchild]⟩
    | some found =>
      obtain ⟨i, c⟩ := found
      by_cases hmin : c.item.minimal = x.minimal
      · exact .inl ⟨i, c, k, rfl, hchild, fun _ => hmin,
          by simp [accept, arrival, hkey, hchild, hmin]⟩
      · by_cases hfun : x.isFunction = true
        · refine .inr ⟨fun i' c' k' hk' hc' => ?_,
            by simp [accept, arrival, hkey, hchild, hmin, hfun]⟩
          obtain rfl := Option.some.inj hk'
          rw [hchild] at hc'
          obtain ⟨rfl, rfl⟩ := Prod.mk.inj (Option.some.inj hc')
          exact ⟨hfun, hmin⟩
        · exact .inl ⟨i, c, k, rfl, hchild, fun h => absurd h hfun,
            by simp [accept, arrival, hkey, hchild, hmin, hfun]⟩

theorem entries_append (t : Tree) (x : Item) :
    (t.append x).entries =
      t.entries.map (Entry.release (registeredKey x)) ++ [⟨x, registeredKey x⟩] := by
  have hrelease : ∀ c : Tree,
      (c.release (registeredKey x)).entry = c.entry.release (registeredKey x) := by
    intro c
    unfold release Entry.release entry
    dsimp only
    split <;> rfl
  simp only [append, entries, List.map_append, List.map_map, List.map_cons, List.map_nil]
  congr 1
  exact List.map_congr_left fun c _ => hrelease c

theorem entries_mergeItem {i : Nat} {c : Tree} (hi : t.children[i]? = some c) (x : Item) :
    (t.modify (·.mergeItem x) [i]).entries =
      t.entries.set i ⟨c.item.merge x, c.key⟩ := by
  obtain ⟨hlt, rfl⟩ := List.getElem?_eq_some_iff.mp hi
  simp only [modify, entries]
  apply List.ext_getElem?
  intro j
  simp only [List.getElem?_map, List.getElem?_modify, List.getElem?_set, List.length_map]
  by_cases hij : i = j
  · subst hij
    simp [hlt, mergeItem, entry]
  · simp [hij]

/-- A node that accepts an item stays what it is for its own parent. -/
theorem entry_accept (t : Tree) (x : Item) : (t.accept x).1.entry = t.entry := by
  rcases accept_cases t x with ⟨i, c, k, -, -, -, h⟩ | ⟨-, h⟩ <;> rw [h] <;> rfl

/-! ### Frames -/

/-- A node with its item or key changed has the same nodes below it. -/
theorem get?_of_children_eq {c c' : Tree} (hcc : c'.children = c.children) {r : Position}
    (h : c'.get? r = some node') : ∃ n, c.get? r = some n ∧ node'.entries = n.entries := by
  cases r with
  | nil =>
    obtain rfl := Option.some.inj h
    exact ⟨c, get?_nil c, by rw [entries, entries, hcc]⟩
  | cons k r => exact ⟨node', by rwa [get?, hcc] at h, rfl⟩

/-- Below a node that accepts an item, the nodes keep their entries; a new one has none. -/
theorem get?_accept_below {j : Nat} {r : Position}
    (h : (node.accept x).1.get? (j :: r) = some node') :
    (∃ n, node.get? (j :: r) = some n ∧ node'.entries = n.entries) ∨ node'.entries = [] := by
  simp only [get?] at h ⊢
  rcases accept_cases node x with ⟨i, c, k, -, -, -, heq⟩ | ⟨-, heq⟩
  · rw [heq] at h
    simp only [modify, List.getElem?_modify] at h
    cases hj : node.children[j]? with
    | none => simp [hj] at h
    | some d =>
      simp only [hj] at h
      refine .inl (get?_of_children_eq ?_ h)
      split <;> rfl
  · rw [heq] at h
    simp only [append] at h
    by_cases hj : j < node.children.length
    · rw [List.getElem?_append_left (by simpa using hj), List.getElem?_map,
        List.getElem?_eq_getElem hj] at h
      rw [List.getElem?_eq_getElem hj]
      refine .inl (get?_of_children_eq ?_ h)
      unfold release
      split <;> rfl
    · rw [List.getElem?_append_right (by simpa using hj), List.getElem?_singleton] at h
      by_cases hlast : j - (node.children.map (release (registeredKey x))).length = 0
      · rw [if_pos hlast] at h
        cases r with
        | nil =>
          obtain rfl := Option.some.inj h
          exact .inr rfl
        | cons k r => simp [get?] at h
      · rw [if_neg hlast] at h
        exact absurd h (by simp)

/-- A change of the node at `p` that its parent does not see is not seen from the node itself,
nor in the entries of a node above it. -/
theorem entry_modify {f : Tree → Tree} (hf : ∀ n, (f n).entry = n.entry) (t : Tree) (p : Position) :
    (t.modify f p).entry = t.entry := by
  cases p with
  | nil => exact hf t
  | cons i p => rfl

theorem entries_modify_cons {f : Tree → Tree} (hf : ∀ n, (f n).entry = n.entry) (t : Tree) (i : Nat)
    (p : Position) : (t.modify f (i :: p)).entries = t.entries := by
  apply List.ext_getElem?
  intro j
  simp only [modify, entries, List.getElem?_map, List.getElem?_modify]
  cases t.children[j]? with
  | none => rfl
  | some c => by_cases hij : i = j <;> simp [hij, entry_modify hf]

/-- A change of the node at `p` that its parent does not see leaves the entries at every
position alone that does not lie below `p`. -/
theorem get?_modify_cases {f : Tree → Tree} (hf : ∀ n, (f n).entry = n.entry) {p : Position} :
    ∀ {t node' : Tree} {q : Position}, (t.modify f p).get? q = some node' →
      (∃ n r, q = p ++ r ∧ t.get? p = some n ∧ (f n).get? r = some node') ∨
        (¬ p <+: q ∧ ∃ n, t.get? q = some n ∧ node'.entries = n.entries) := by
  induction p with
  | nil =>
    intro t node' q h
    exact .inl ⟨t, q, rfl, get?_nil t, h⟩
  | cons i p ih =>
    intro t node' q h
    cases q with
    | nil =>
      obtain rfl := Option.some.inj h
      exact .inr ⟨by simp, t, get?_nil t, entries_modify_cons hf t i p⟩
    | cons j q =>
      simp only [modify, get?, List.getElem?_modify] at h
      cases hj : t.children[j]? with
      | none => simp [hj] at h
      | some c =>
        by_cases hij : i = j
        · subst hij
          simp only [hj, if_true] at h
          rcases ih h with ⟨n, r, rfl, hn, hr⟩ | ⟨hq, n, hn, hent⟩
          · exact .inl ⟨n, r, rfl, by simpa [get?, hj] using hn, hr⟩
          · exact .inr ⟨by simpa using hq, n, by simpa [get?, hj] using hn, hent⟩
        · simp only [hj, hij, if_false] at h
          refine .inr ⟨by simp [hij], node', ?_, rfl⟩
          simpa [get?, hj] using h

/-- After an insertion, the parent is the old one with the item accepted, every other
node has the entries it had, and a new node has none. -/
theorem get?_insert_cases (h : (t.insert parent x).1.get? q = some node') :
    (q = parent ∧ ∃ n, t.get? parent = some n ∧ node' = (n.accept x).1) ∨
      (q ≠ parent ∧
        ((∃ n, t.get? q = some n ∧ node'.entries = n.entries) ∨ node'.entries = [])) := by
  cases hp : t.get? parent with
  | none =>
    have hsame : (t.insert parent x).1 = t := by simp [insert, hp]
    rw [hsame] at h
    refine .inr ⟨?_, .inl ⟨node', h, rfl⟩⟩
    rintro rfl
    simp [h] at hp
  | some n =>
    have hmod : (t.insert parent x).1 = t.modify (fun n => (n.accept x).1) parent := by
      simp [insert, hp]
    rw [hmod] at h
    rcases get?_modify_cases (fun n => entry_accept n x) h with
      ⟨m, r, rfl, hm, hr⟩ | ⟨hq, m, hm, hent⟩
    · obtain rfl : n = m := Option.some.inj (hp.symm.trans hm)
      cases r with
      | nil => exact .inl ⟨by simp, n, rfl, (Option.some.inj hr).symm⟩
      | cons j r =>
        refine .inr ⟨by simp, ?_⟩
        rcases get?_accept_below hr with ⟨m, hm', hent⟩ | hnil
        · exact .inl ⟨m, by rw [get?_append, hp]; exact hm', hent⟩
        · exact .inr hnil
    · refine .inr ⟨?_, .inl ⟨m, hm, hent⟩⟩
      rintro rfl
      exact hq (List.prefix_refl _)

/-! ### Placements -/

/-- Where an item goes, and the item as it appears there. -/
def destination (t : Tree) (cursor : Cursor) (item : Item) : Except Error (Position × Item) := do
  let target ← t.targetOf cursor item
  let item := { item with asIs := target.asIs }
  let parent ← t.resolve (target.parent.getD []) item
  return (parent, t.settle parent item)

/-- What is displayed of an item below its parent decides on its minimal form. -/
theorem minimal_settle {item : Item} {display : Text}
    (h : (t.settle parent item).display = some display) :
    (t.settle parent item).minimal = some (minimalForm display) := by
  unfold settle at h ⊢
  dsimp only at h ⊢
  split
  · rename_i shown hshown
    simp only [hshown] at h
    obtain rfl := Option.some.inj h
    rfl
  · rename_i hshown
    simp only [hshown] at h
    exact absurd h (by simp)

/-- A placement is an insertion at the destination. -/
theorem destination_of_place {cursor : Cursor} {item : Item} {placed : Placement}
    (h : t.place cursor item = .ok placed) :
    ∃ parent x, t.destination cursor item = .ok (parent, x) ∧
      placed.tree = (t.insert parent x).1 ∧ placed.position = (t.insert parent x).2 := by
  obtain ⟨target, htarget, h⟩ := bind_eq_ok.mp h
  obtain ⟨parent, hparent, h⟩ := bind_eq_ok.mp h
  obtain rfl := Except.ok.inj h
  refine ⟨parent, t.settle parent { item with asIs := target.asIs }, ?_, rfl, rfl⟩
  exact bind_eq_ok.mpr ⟨target, htarget, bind_eq_ok.mpr ⟨parent, hparent, rfl⟩⟩

/-- An item with a destination is placed there. -/
theorem place_of_destination {cursor : Cursor} {item : Item}
    (h : t.destination cursor item = .ok (parent, x)) :
    ∃ placed, t.place cursor item = .ok placed ∧
      placed.tree = (t.insert parent x).1 ∧ placed.position = (t.insert parent x).2 := by
  obtain ⟨target, htarget, h⟩ := bind_eq_ok.mp h
  obtain ⟨parent, hparent, h⟩ := bind_eq_ok.mp h
  obtain ⟨rfl, rfl⟩ := Prod.mk.inj (Except.ok.inj h)
  exact ⟨_, bind_eq_ok.mpr ⟨target, htarget, bind_eq_ok.mpr ⟨parent, hparent, rfl⟩⟩, rfl, rfl⟩

end Tree

end DocTree
