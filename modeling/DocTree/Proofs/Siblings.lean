/-
Names and forms among siblings.

Two functions below one node should differ in their minimal form, and two other items
below one node in their name.  Both are read off the entries of a node:

* `WellKeyed.formsDistinct` — functions are always told apart, since a function
  holds the key that is its minimal form, and keys are held by one child at a time;
* `Tree.namesDistinct_accept_iff` — names stay distinct unless an item takes over the
  node of a function, or a new one, under a name that a sibling bears already;
* `Tree.namesDistinct_throughout_iff` — so along a run names are distinct throughout
  exactly when no placement does so, and none does as long as no item other than a
  function lands on a function.

A function may be a single word, `Foo`, and a class may have that word as its name: then
both compete for one key (`Tree.namesDistinct_fails`).
-/
import DocTree.Proofs.Insertion
import DocTree.Source
import Mathlib.Data.List.Induction

namespace DocTree

/-- The minimal form of a function, unless it is empty. -/
def Item.form? (x : Item) : Option Text :=
  if x.isFunction then x.minimal.filter fun m => !m.isEmpty else none

/-- The name of an item that is no function, unless it is empty. -/
def Item.ownName? (x : Item) : Option Text :=
  if x.isFunction then none else x.name.filter fun n => !n.isEmpty

/-- No two entries bear the same label. -/
def Distinct (label : Entry → Option Text) (es : List Entry) : Prop :=
  ∀ ⦃i j : Nat⦄ ⦃a b : Entry⦄ ⦃k : Text⦄, es[i]? = some a → es[j]? = some b →
    label a = some k → label b = some k → i = j

/-- A key is held by one entry at a time. -/
abbrev KeysDistinct : List Entry → Prop := Distinct Entry.key

/-- No two functions have the same minimal form. -/
abbrev FormsDistinct : List Entry → Prop := Distinct fun e => e.item.form?

/-- No two items other than functions have the same name. -/
abbrev NamesDistinct : List Entry → Prop := Distinct fun e => e.item.ownName?

/-! ### Keys and merged items -/

namespace Item

variable {x old new : Item} {k : Text}

theorem form?_eq_some : x.form? = some k ↔ x.isFunction = true ∧ x.minimal = some k ∧ k ≠ [] := by
  unfold form?
  cases x.isFunction <;> simp [Option.filter_eq_some_iff]

theorem ownName?_eq_some :
    x.ownName? = some k ↔ x.isFunction = false ∧ x.name = some k ∧ k ≠ [] := by
  unfold ownName?
  cases x.isFunction <;> simp [Option.filter_eq_some_iff]

@[simp] theorem isFunction_merge (old new : Item) :
    (old.merge new).isFunction = new.isFunction := rfl

theorem minimal_merge_of_eq (h : old.minimal = new.minimal) :
    (old.merge new).minimal = new.minimal := by
  show longer? old.minimal new.minimal = new.minimal
  rw [h, longer?_self]

theorem length_le_name_merge (h : new.name = some k) :
    ∃ n, (old.merge new).name = some n ∧ k.length ≤ n.length := by
  show ∃ n, longer? old.name new.name = some n ∧ k.length ≤ n.length
  rw [h]
  cases old.name with
  | none => exact ⟨k, rfl, Nat.le_refl _⟩
  | some n =>
    refine ⟨longer n k, rfl, ?_⟩
    unfold longer
    split <;> omega

/-- A name that is at least as long as the new one stays. -/
theorem name_merge_of_le {n : Text} (hold : old.name = some n) (hnew : new.name = some k)
    (hle : k.length ≤ n.length) : (old.merge new).name = old.name := by
  show longer? old.name new.name = old.name
  rw [hold, hnew]
  exact congrArg some (if_neg (Nat.not_lt.mpr hle))

end Item

namespace Tree

variable {x : Item} {k : Text}

theorem registeredKey_eq_some :
    registeredKey x = some k ↔ x.form? = some k ∨ x.ownName? = some k := by
  unfold registeredKey Item.form? Item.ownName? Item.key
  cases x.isFunction <;> simp

theorem minimal_of_registeredKey (h : registeredKey x = some k) (hfun : x.isFunction = true) :
    x.minimal = some k := by
  rcases registeredKey_eq_some.mp h with hform | hown
  · exact (Item.form?_eq_some.mp hform).2.1
  · exact absurd (hfun.symm.trans (Item.ownName?_eq_some.mp hown).1) (by simp)

theorem name_of_registeredKey (h : registeredKey x = some k) (hfun : x.isFunction = false) :
    x.name = some k := by
  rcases registeredKey_eq_some.mp h with hform | hown
  · exact absurd (hfun.symm.trans (Item.form?_eq_some.mp hform).1) (by simp)
  · exact (Item.ownName?_eq_some.mp hown).2.1

theorem registeredKey_of_minimal (hfun : x.isFunction = true) (hmin : x.minimal = some k)
    (hk : k ≠ []) : registeredKey x = some k :=
  registeredKey_eq_some.mpr (.inl (Item.form?_eq_some.mpr ⟨hfun, hmin, hk⟩))

theorem registeredKey_of_name (hfun : x.isFunction = false) (hname : x.name = some k)
    (hk : k ≠ []) : registeredKey x = some k :=
  registeredKey_eq_some.mpr (.inr (Item.ownName?_eq_some.mpr ⟨hfun, hname, hk⟩))

end Tree

/-! ### One arrival, seen in the entries -/

/-- How the entries below a node change when the item `x` arrives there. -/
inductive Joins (x : Item) (es : List Entry) : List Entry → Prop
  | merged {i : Nat} {e : Entry} {k : Text} (hx : Tree.registeredKey x = some k)
      (hi : es[i]? = some e) (hk : e.key = some k)
      (hform : x.isFunction = true → e.item.minimal = x.minimal) :
      Joins x es (es.set i ⟨e.item.merge x, e.key⟩)
  | added (hfree : ∀ e ∈ es, ∀ k, Tree.registeredKey x = some k → e.key = some k →
        x.isFunction = true ∧ e.item.minimal ≠ x.minimal) :
      Joins x es (es.map (Entry.release (Tree.registeredKey x)) ++ [⟨x, Tree.registeredKey x⟩])

theorem Tree.joins_accept {t : Tree} (hkeys : KeysDistinct t.entries) (x : Item) :
    Joins x t.entries (t.accept x).1.entries := by
  rcases accept_cases t x with ⟨i, c, k, hx, hchild, hform, h⟩ | ⟨hfree, h⟩
  · obtain ⟨hi, hk, -⟩ := child?_eq_some.mp hchild
    rw [h, entries_mergeItem hi]
    exact .merged hx (getElem?_entries_of_child hi) hk hform
  · rw [h, entries_append]
    refine .added fun e he k hx hk => ?_
    obtain ⟨j, hj⟩ := List.mem_iff_getElem?.mp he
    cases hchild : t.child? k with
    | none => exact absurd hk (child?_eq_none.mp hchild e he)
    | some found =>
      obtain ⟨i, c⟩ := found
      obtain ⟨hi, hck, -⟩ := child?_eq_some.mp hchild
      -- the keys are distinct, so the entry is the one that the lookup finds
      have hentry := getElem?_entries_of_child hi
      obtain rfl := hkeys hj hentry hk hck
      obtain rfl := Option.some.inj (hj.symm.trans hentry)
      exact hfree j c k hx hchild

section Joins

variable {x : Item} {es es' : List Entry}

/-- What an entry is after the arrival: as it was, merged with the item, released from the
key of the item, or that of the item itself. -/
theorem Joins.mem_cases (h : Joins x es es') {e : Entry} (he : e ∈ es') :
    e ∈ es ∨
      (∃ e₀ ∈ es, ∃ k, Tree.registeredKey x = some k ∧ e₀.key = some k ∧
        (x.isFunction = true → e₀.item.minimal = x.minimal) ∧ e = ⟨e₀.item.merge x, e₀.key⟩) ∨
      (∃ e₀ ∈ es, (∀ k, Tree.registeredKey x = some k → e₀.key = some k →
        x.isFunction = true ∧ e₀.item.minimal ≠ x.minimal) ∧
        e = e₀.release (Tree.registeredKey x)) ∨
      e = ⟨x, Tree.registeredKey x⟩ := by
  cases h with
  | @merged i e₀ k hx hi hk hform =>
    rcases List.mem_or_eq_of_mem_set he with he | rfl
    · exact .inl he
    · exact .inr (.inl ⟨e₀, List.mem_of_getElem? hi, k, hx, hk, hform, rfl⟩)
  | added hfree =>
    rcases List.mem_append.mp he with he | he
    · obtain ⟨e₀, he₀, rfl⟩ := List.mem_map.mp he
      exact .inr (.inr (.inl ⟨e₀, he₀, hfree e₀ he₀, rfl⟩))
    · exact .inr (.inr (.inr (List.mem_singleton.mp he)))

theorem getElem?_set_cases {i j : Nat} {e a : Entry} (h : (es.set i e)[j]? = some a) :
    (j = i ∧ a = e) ∨ (j ≠ i ∧ es[j]? = some a) := by
  rw [List.getElem?_set] at h
  by_cases hij : i = j
  · rw [if_pos hij] at h
    split at h
    · exact .inl ⟨hij.symm, (Option.some.inj h).symm⟩
    · exact absurd h (by simp)
  · rw [if_neg hij] at h
    exact .inr ⟨fun hji => hij hji.symm, h⟩

theorem getElem?_concat_cases {f : Entry → Entry} {j : Nat} {e a : Entry}
    (h : (es.map f ++ [e])[j]? = some a) :
    (∃ b, es[j]? = some b ∧ a = f b) ∨ (j = es.length ∧ a = e) := by
  by_cases hj : j < es.length
  · rw [List.getElem?_append_left (by simpa using hj), List.getElem?_map] at h
    obtain ⟨b, hb, rfl⟩ := Option.map_eq_some_iff.mp h
    exact .inl ⟨b, hb, rfl⟩
  · rw [List.getElem?_append_right (by simpa using hj), List.length_map,
      List.getElem?_singleton] at h
    split at h
    · exact .inr ⟨by omega, (Option.some.inj h).symm⟩
    · exact absurd h (by simp)

/-- A key passes to the item that arrives, and stays where it is otherwise. -/
theorem KeysDistinct.joins (h : KeysDistinct es) (hjoin : Joins x es es') : KeysDistinct es' := by
  intro i j a b k hi hj ha hb
  cases hjoin with
  | @merged i₀ e k₀ hx hi₀ hk hform =>
    rcases getElem?_set_cases hi with ⟨rfl, rfl⟩ | ⟨hne, hi'⟩ <;>
      rcases getElem?_set_cases hj with ⟨rfl, rfl⟩ | ⟨hne', hj'⟩
    · rfl
    · exact h hi₀ hj' ha hb
    · exact h hi' hi₀ ha hb
    · exact h hi' hj' ha hb
  | added hfree =>
    rcases getElem?_concat_cases hi with ⟨a', hi', rfl⟩ | ⟨rfl, rfl⟩ <;>
      rcases getElem?_concat_cases hj with ⟨b', hj', rfl⟩ | ⟨rfl, rfl⟩
    · exact h hi' hj' (Entry.key_release_eq_some.mp ha).1 (Entry.key_release_eq_some.mp hb).1
    · exact absurd hb (Entry.key_release_eq_some.mp ha).2
    · exact absurd ha (Entry.key_release_eq_some.mp hb).2
    · rfl

/-- What holds of the entries below every node. -/
structure WellKeyed (es : List Entry) : Prop where
  keys : KeysDistinct es
  /-- a function holds its minimal form as its key -/
  form_key : ∀ e ∈ es, ∀ m, e.item.form? = some m → e.key = some m
  /-- a name is never shorter than the key that it once was -/
  key_le_name : ∀ e ∈ es, e.item.isFunction = false → ∀ k, e.key = some k →
    ∃ n, e.item.name = some n ∧ k.length ≤ n.length

theorem WellKeyed.nil : WellKeyed [] where
  keys := by intro i j a b k hi; simp at hi
  form_key := by simp
  key_le_name := by simp

theorem WellKeyed.joins (h : WellKeyed es) (hjoin : Joins x es es') : WellKeyed es' := by
  refine ⟨h.keys.joins hjoin, ?_, ?_⟩
  · intro e he m hm
    rcases hjoin.mem_cases he with he | ⟨e₀, -, k, hx, hk, hform, rfl⟩ | ⟨e₀, he₀, hfree, rfl⟩ | rfl
    · exact h.form_key e he m hm
    · -- the merged node has the form of the function that arrived
      obtain ⟨hfun, hmin, hne⟩ := Item.form?_eq_some.mp hm
      rw [Item.isFunction_merge] at hfun
      rw [Item.minimal_merge_of_eq (hform hfun)] at hmin
      obtain rfl := Option.some.inj (hx.symm.trans (Tree.registeredKey_of_minimal hfun hmin hne))
      exact hk
    · rw [Entry.item_release] at hm
      have hkey := h.form_key e₀ he₀ m hm
      refine Entry.key_release_eq_some.mpr ⟨hkey, fun hx => ?_⟩
      -- a function gives its key up to no other, as one of its form would merge
      obtain ⟨hfun, hne⟩ := hfree m hx hkey
      obtain ⟨-, hmin, -⟩ := Item.form?_eq_some.mp hm
      exact hne (hmin.trans (Tree.minimal_of_registeredKey hx hfun).symm)
    · exact Tree.registeredKey_eq_some.mpr (.inl hm)
  · intro e he hfun k hkey
    rcases hjoin.mem_cases he with he | ⟨e₀, -, k₀, hx, hk, -, rfl⟩ | ⟨e₀, he₀, -, rfl⟩ | rfl
    · exact h.key_le_name e he hfun k hkey
    · obtain rfl := Option.some.inj (hk.symm.trans hkey)
      exact Item.length_le_name_merge (Tree.name_of_registeredKey hx hfun)
    · rw [Entry.item_release] at hfun ⊢
      exact h.key_le_name e₀ he₀ hfun k (Entry.key_release_eq_some.mp hkey).1
    · exact ⟨k, Tree.name_of_registeredKey hkey hfun, Nat.le_refl _⟩

/-- An item that merges with a node of its key, neither of them a function, leaves the
node its name. -/
theorem WellKeyed.ownName?_merge (h : WellKeyed es) {e : Entry} {k : Text} (he : e ∈ es)
    (hkey : e.key = some k) (hx : Tree.registeredKey x = some k) (hfun : x.isFunction = false)
    (hold : e.item.isFunction = false) : (e.item.merge x).ownName? = e.item.ownName? := by
  obtain ⟨n, hn, hle⟩ := h.key_le_name e he hold k hkey
  unfold Item.ownName?
  rw [Item.isFunction_merge, hfun, hold,
    Item.name_merge_of_le hn (Tree.name_of_registeredKey hx hfun) hle]

/-- Functions are told apart by their keys. -/
theorem WellKeyed.formsDistinct (h : WellKeyed es) : FormsDistinct es := by
  intro i j a b m hi hj ha hb
  exact h.keys hi hj (h.form_key a (List.mem_of_getElem? hi) m ha)
    (h.form_key b (List.mem_of_getElem? hj) m hb)

end Joins

/-! ### Names that double -/

section Distinct

variable {label : Entry → Option Text} {es : List Entry} {i : Nat} {e e' : Entry}

/-- Relabelling an entry that had no label keeps labels distinct unless the new one is
taken. -/
theorem Distinct.set_iff (h : Distinct label es) (hi : es[i]? = some e) (he : label e = none) :
    Distinct label (es.set i e') ↔ ∀ k, label e' = some k → ∀ a ∈ es, label a ≠ some k := by
  obtain ⟨hlt, -⟩ := List.getElem?_eq_some_iff.mp hi
  have hself : (es.set i e')[i]? = some e' := by simp [hlt]
  constructor
  · intro hd k hk a ha hak
    obtain ⟨j, hj⟩ := List.mem_iff_getElem?.mp ha
    by_cases hij : i = j
    · subst hij
      obtain rfl := Option.some.inj (hi.symm.trans hj)
      rw [he] at hak
      exact absurd hak (by simp)
    · exact hij (hd hself (by rw [List.getElem?_set_ne hij, hj]) hk hak)
  · intro hfree j₁ j₂ a b k h₁ h₂ ha hb
    rcases getElem?_set_cases h₁ with ⟨rfl, rfl⟩ | ⟨-, h₁'⟩ <;>
      rcases getElem?_set_cases h₂ with ⟨rfl, rfl⟩ | ⟨-, h₂'⟩
    · rfl
    · exact absurd hb (hfree k ha b (List.mem_of_getElem? h₂'))
    · exact absurd ha (hfree k hb a (List.mem_of_getElem? h₁'))
    · exact h h₁' h₂' ha hb

/-- An entry whose label goes or stays keeps labels distinct. -/
theorem Distinct.set_of_le (h : Distinct label es) (hi : es[i]? = some e)
    (he : ∀ k, label e' = some k → label e = some k) : Distinct label (es.set i e') := by
  intro j₁ j₂ a b k h₁ h₂ ha hb
  rcases getElem?_set_cases h₁ with ⟨rfl, rfl⟩ | ⟨-, h₁'⟩ <;>
    rcases getElem?_set_cases h₂ with ⟨rfl, rfl⟩ | ⟨-, h₂'⟩
  · rfl
  · exact h hi h₂' (he k ha) hb
  · exact h h₁' hi ha (he k hb)
  · exact h h₁' h₂' ha hb

/-- A further entry keeps labels distinct unless its label is taken. -/
theorem Distinct.concat_iff (h : Distinct label es) {f : Entry → Entry}
    (hf : ∀ a, label (f a) = label a) (e' : Entry) :
    Distinct label (es.map f ++ [e']) ↔ ∀ k, label e' = some k → ∀ a ∈ es, label a ≠ some k := by
  have hlast : (es.map f ++ [e'])[es.length]? = some e' := by
    rw [List.getElem?_append_right (by simp)]
    simp
  constructor
  · intro hd k hk a ha hak
    obtain ⟨j, hj⟩ := List.mem_iff_getElem?.mp ha
    obtain ⟨hlt, -⟩ := List.getElem?_eq_some_iff.mp hj
    have hj' : (es.map f ++ [e'])[j]? = some (f a) := by
      rw [List.getElem?_append_left (by simpa using hlt), List.getElem?_map, hj]
      rfl
    have := hd hj' hlast (by rw [hf, hak]) hk
    omega
  · intro hfree j₁ j₂ a b k h₁ h₂ ha hb
    rcases getElem?_concat_cases h₁ with ⟨a', h₁', rfl⟩ | ⟨rfl, rfl⟩ <;>
      rcases getElem?_concat_cases h₂ with ⟨b', h₂', rfl⟩ | ⟨rfl, rfl⟩
    · rw [hf] at ha hb
      exact h h₁' h₂' ha hb
    · rw [hf] at ha
      exact absurd ha (hfree k hb a' (List.mem_of_getElem? h₁'))
    · rw [hf] at hb
      exact absurd hb (hfree k ha b' (List.mem_of_getElem? h₂'))
    · rfl

end Distinct

namespace Tree

variable {t node : Tree} {x : Item}

/-- The name that the arrival of `x`, no function, gives to a node that did not have one:
to a new node, or to the node of a function that it takes over. -/
def freshName (node : Tree) (x : Item) : Option Text :=
  match (registeredKey x).bind node.child? with
  | none => x.name
  | some (_, c) => if c.item.isFunction then Item.longer? c.item.name x.name else none

/-- The item gives a node a name that another child bears already. -/
def DoublesName (node : Tree) (x : Item) : Prop :=
  x.isFunction = false ∧ ∃ n, n ≠ [] ∧ node.freshName x = some n ∧
    ∃ e ∈ node.entries, e.item.ownName? = some n

/-- The item, no function, merges with a function. -/
def LandsOnFunction (node : Tree) (x : Item) : Prop :=
  x.isFunction = false ∧ ∃ i c, (registeredKey x).bind node.child? = some (i, c) ∧
    c.item.isFunction = true

theorem not_doublesName_of_isFunction (hfun : x.isFunction = true) : ¬ node.DoublesName x :=
  fun hd => absurd (hfun.symm.trans hd.1) (by simp)

/-- The item that has the fresh name shares it with no child exactly when none is doubled. -/
theorem forall_ownName?_ne_iff {y : Item} (hfun : x.isFunction = false) (hy : y.isFunction = false)
    (hname : node.freshName x = y.name) :
    (∀ k, y.ownName? = some k → ∀ a ∈ node.entries, a.item.ownName? ≠ some k) ↔
      ¬ node.DoublesName x := by
  constructor
  · rintro h ⟨-, n, hn, hfresh, a, ha, hown⟩
    rw [hname] at hfresh
    exact h n (Item.ownName?_eq_some.mpr ⟨hy, hfresh, hn⟩) a ha hown
  · intro h k hk a ha hown
    obtain ⟨-, hk, hne⟩ := Item.ownName?_eq_some.mp hk
    exact h ⟨hfun, k, hne, hname.trans hk, a, ha, hown⟩

/-- Names stay distinct when the item merges with a child, unless it doubles one. -/
theorem namesDistinct_set_iff (hkeyed : WellKeyed node.entries)
    (hnames : NamesDistinct node.entries) {i : Nat} {c : Tree} {k : Text}
    (hx : registeredKey x = some k) (hchild : node.child? k = some (i, c)) :
    NamesDistinct (node.entries.set i ⟨c.item.merge x, c.key⟩) ↔ ¬ node.DoublesName x := by
  obtain ⟨hi, hck, -⟩ := child?_eq_some.mp hchild
  have hentry := getElem?_entries_of_child hi
  have hfresh : node.freshName x =
      if c.item.isFunction then Item.longer? c.item.name x.name else none := by
    simp [freshName, hx, hchild]
  cases hfun : x.isFunction with
  | true =>
    -- the node is a function now and bears no name of its own
    refine iff_of_true (hnames.set_of_le hentry fun k hk => ?_) (not_doublesName_of_isFunction hfun)
    exact absurd (hfun.symm.trans (Item.ownName?_eq_some.mp hk).1) (by simp)
  | false =>
    cases hc : c.item.isFunction with
    | true =>
      rw [hc, if_pos rfl] at hfresh
      refine (hnames.set_iff hentry ?_).trans (forall_ownName?_ne_iff hfun hfun hfresh)
      show c.item.ownName? = none
      rw [Item.ownName?, if_pos hc]
    | false =>
      -- the name of the node is already as long as the key
      rw [hc, if_neg (by simp)] at hfresh
      have hkeep := hkeyed.ownName?_merge (List.mem_of_getElem? hentry) hck hx hfun hc
      refine iff_of_true (hnames.set_of_le hentry fun m hm => hkeep.symm.trans hm) ?_
      rintro ⟨-, n, -, hn, -⟩
      rw [hfresh] at hn
      exact absurd hn (by simp)

/-- Names stay distinct exactly when the item doubles none. -/
theorem namesDistinct_accept_iff (hkeyed : WellKeyed node.entries)
    (hnames : NamesDistinct node.entries) (x : Item) :
    NamesDistinct (node.accept x).1.entries ↔ ¬ node.DoublesName x := by
  rcases accept_cases node x with ⟨i, c, k, hx, hchild, -, h⟩ | ⟨hadded, h⟩
  · rw [h, entries_mergeItem (child?_eq_some.mp hchild).1]
    exact namesDistinct_set_iff hkeyed hnames hx hchild
  · rw [h, entries_append]
    have hlabel : ∀ a : Entry, (a.release (registeredKey x)).item.ownName? = a.item.ownName? :=
      fun a => by rw [Entry.item_release]
    have hconcat := hnames.concat_iff hlabel ⟨x, registeredKey x⟩
    cases hfun : x.isFunction with
    | true =>
      refine iff_of_true (hconcat.mpr fun k hk => ?_) (not_doublesName_of_isFunction hfun)
      exact absurd (hfun.symm.trans (Item.ownName?_eq_some.mp hk).1) (by simp)
    | false =>
      refine hconcat.trans (forall_ownName?_ne_iff hfun hfun ?_)
      unfold freshName
      cases hbind : (registeredKey x).bind node.child? with
      | none => rfl
      | some found =>
        obtain ⟨k, hk, hc⟩ := Option.bind_eq_some_iff.mp hbind
        exact absurd (hfun.symm.trans (hadded _ _ k hk hc).1) (by simp)

/-- Every name of an item other than a function is a key that some child holds. -/
def NamesHeld (es : List Entry) : Prop :=
  ∀ e ∈ es, ∀ n, e.item.ownName? = some n → ∃ d ∈ es, d.key = some n

/-- As long as names are held and no item lands on a function, no name is doubled. -/
theorem not_doublesName (hheld : NamesHeld node.entries) (hlands : ¬ node.LandsOnFunction x) :
    ¬ node.DoublesName x := by
  rintro ⟨hfun, n, hn, hfresh, e, he, hown⟩
  obtain ⟨d, hd, hkey⟩ := hheld e he n hown
  unfold freshName at hfresh
  cases hbind : (registeredKey x).bind node.child? with
  | none =>
    rw [hbind] at hfresh
    rw [registeredKey_of_name hfun hfresh hn] at hbind
    exact child?_eq_none.mp hbind d hd hkey
  | some found =>
    obtain ⟨i, c⟩ := found
    cases hc : c.item.isFunction with
    | true => exact hlands ⟨hfun, i, c, hbind, hc⟩
    | false =>
      rw [hbind] at hfresh
      simp [hc] at hfresh

/-- Merging moves no key. -/
theorem exists_mem_set_key_eq {es : List Entry} {i : Nat} {e d : Entry} (hi : es[i]? = some e)
    (y : Item) (hd : d ∈ es) : ∃ d' ∈ es.set i ⟨y, e.key⟩, d'.key = d.key := by
  obtain ⟨j, hj⟩ := List.mem_iff_getElem?.mp hd
  by_cases hij : i = j
  · subst hij
    obtain rfl := Option.some.inj (hi.symm.trans hj)
    obtain ⟨hlt, -⟩ := List.getElem?_eq_some_iff.mp hj
    exact ⟨_, List.mem_set hlt _, rfl⟩
  · exact ⟨d, List.mem_of_getElem? (by rw [List.getElem?_set_ne hij, hj]), rfl⟩

theorem namesHeld_accept (hkeyed : WellKeyed node.entries) (hheld : NamesHeld node.entries)
    (hlands : ¬ node.LandsOnFunction x) : NamesHeld (node.accept x).1.entries := by
  intro e he n hown
  rcases accept_cases node x with ⟨i, c, k, hx, hchild, -, h⟩ | ⟨-, h⟩
  · obtain ⟨hi, hck, -⟩ := child?_eq_some.mp hchild
    have hentry := getElem?_entries_of_child hi
    rw [h, entries_mergeItem hi] at he ⊢
    -- the name was there before, as merging with another scope leaves names alone
    have hold : ∃ a ∈ node.entries, a.item.ownName? = some n := by
      rcases List.mem_or_eq_of_mem_set he with he | rfl
      · exact ⟨e, he, hown⟩
      · have hfun : x.isFunction = false := (Item.ownName?_eq_some.mp hown).1
        have hc : c.item.isFunction = false := by
          cases hc : c.item.isFunction with
          | false => rfl
          | true => exact absurd ⟨hfun, i, c, by rw [hx]; exact hchild, hc⟩ hlands
        have hkeep := hkeyed.ownName?_merge (List.mem_of_getElem? hentry) hck hx hfun hc
        exact ⟨_, List.mem_of_getElem? hentry, hkeep.symm.trans hown⟩
    obtain ⟨a, ha, hown'⟩ := hold
    obtain ⟨d, hd, hkey⟩ := hheld a ha n hown'
    obtain ⟨d', hd', hkey'⟩ := exists_mem_set_key_eq hentry (c.item.merge x) hd
    exact ⟨d', hd', hkey'.trans hkey⟩
  · rw [h, entries_append] at he ⊢
    rcases List.mem_append.mp he with he | he
    · obtain ⟨e₀, he₀, rfl⟩ := List.mem_map.mp he
      rw [Entry.item_release] at hown
      obtain ⟨d, hd, hkey⟩ := hheld e₀ he₀ n hown
      by_cases hx : registeredKey x = some n
      · exact ⟨⟨x, registeredKey x⟩, by simp, hx⟩
      · exact ⟨d.release (registeredKey x), by simpa using .inl ⟨d, hd, rfl⟩,
          Entry.key_release_eq_some.mpr ⟨hkey, hx⟩⟩
    · obtain rfl := List.mem_singleton.mp he
      exact ⟨_, List.mem_append_right _ he, registeredKey_eq_some.mpr (.inr hown)⟩

/-! ### Runs -/

/-- The entries below every node are as `P` says. -/
def Everywhere (P : List Entry → Prop) (t : Tree) : Prop :=
  ∀ q node, t.get? q = some node → P node.entries

theorem everywhere_empty {P : List Entry → Prop} (hnil : P []) : empty.Everywhere P := by
  intro q node h
  cases q with
  | nil =>
    obtain rfl := Option.some.inj h
    exact hnil
  | cons i q => simp [get?, empty] at h

theorem Everywhere.insert {P : List Entry → Prop} (h : t.Everywhere P) (hnil : P [])
    {parent : Position} (hstep : ∀ n, t.get? parent = some n → P (n.accept x).1.entries) :
    (t.insert parent x).1.Everywhere P := by
  intro q node hq
  rcases get?_insert_cases hq with ⟨-, n, hn, rfl⟩ | ⟨-, ⟨n, hn, hent⟩ | hent⟩
  · exact hstep n hn
  · rw [hent]
    exact h q n hn
  · rw [hent]
    exact hnil

theorem Everywhere.wellKeyed_insert (h : t.Everywhere WellKeyed) (parent : Position) (x : Item) :
    (t.insert parent x).1.Everywhere WellKeyed :=
  h.insert .nil fun n hn => (h parent n hn).joins (joins_accept (h parent n hn).keys x)

/-- Places items one after the other, each from a cursor of its own. -/
def placeEach (t : Tree) (steps : List (Cursor × Item)) : Except Error Tree :=
  steps.foldlM (fun t step => (t.place step.1 step.2).map Placement.tree) t

/-- The placement of the item doubles a name below the node it goes to. -/
def DoublesNameAt (t : Tree) (step : Cursor × Item) : Prop :=
  ∃ parent x node, t.destination step.1 step.2 = .ok (parent, x) ∧
    t.get? parent = some node ∧ node.DoublesName x

/-- The placement of the item lands on a function below the node it goes to. -/
def LandsOnFunctionAt (t : Tree) (step : Cursor × Item) : Prop :=
  ∃ parent x node, t.destination step.1 step.2 = .ok (parent, x) ∧
    t.get? parent = some node ∧ node.LandsOnFunction x

/-- A step of a run is an insertion at the destination of its item. -/
theorem insert_of_step {step : Cursor × Item} {t' : Tree}
    (h : (t.place step.1 step.2).map Placement.tree = .ok t') :
    ∃ parent x, t.destination step.1 step.2 = .ok (parent, x) ∧ t' = (t.insert parent x).1 := by
  cases hplace : t.place step.1 step.2 with
  | error e => rw [hplace] at h; exact absurd h (by simp [Except.map])
  | ok placed =>
    rw [hplace] at h
    obtain ⟨parent, x, hdest, htree, -⟩ := destination_of_place hplace
    exact ⟨parent, x, hdest, (Except.ok.inj h).symm.trans htree⟩

theorem placeEach_concat {steps : List (Cursor × Item)} {step : Cursor × Item} {t' : Tree} :
    t.placeEach (steps ++ [step]) = .ok t' ↔
      ∃ u, t.placeEach steps = .ok u ∧ (u.place step.1 step.2).map Placement.tree = .ok t' := by
  unfold placeEach
  rw [List.foldlM_append, bind_eq_ok]
  simp only [List.foldlM_cons, List.foldlM_nil, bind_pure]

/-- `P` holds of every tree along the run. -/
def Throughout (steps : List (Cursor × Item)) (P : Tree → Prop) : Prop :=
  ∀ before t, before <+: steps → empty.placeEach before = .ok t → P t

/-- No step of the run is as `Q` says. -/
def NoStep (steps : List (Cursor × Item)) (Q : Tree → Cursor × Item → Prop) : Prop :=
  ∀ before step t, before ++ [step] <+: steps → empty.placeEach before = .ok t → ¬ Q t step

/-- What holds of the empty tree and is kept by every step holds along the run. -/
theorem throughout_of_step {steps : List (Cursor × Item)} {P : Tree → Prop} (hempty : P empty)
    (hstep : ∀ before step t parent x, before ++ [step] <+: steps →
      empty.placeEach before = .ok t → P t → t.destination step.1 step.2 = .ok (parent, x) →
      P (t.insert parent x).1) : Throughout steps P := by
  intro before
  induction before using List.reverseRecOn with
  | nil =>
    intro t _ h
    obtain rfl := Except.ok.inj h
    exact hempty
  | append_singleton before step ih =>
    intro t hprefix h
    obtain ⟨u, hu, hplace⟩ := placeEach_concat.mp h
    obtain ⟨parent, x, hdest, rfl⟩ := insert_of_step hplace
    have hbefore : before <+: steps := (List.prefix_append _ _).trans hprefix
    exact hstep before step u parent x hprefix hu (ih u hbefore hu) hdest

theorem throughout_wellKeyed (steps : List (Cursor × Item)) :
    Throughout steps (Everywhere WellKeyed) :=
  throughout_of_step (everywhere_empty .nil) fun _ _ _ parent x _ _ h _ =>
    h.wellKeyed_insert parent x

/-- A step keeps names distinct exactly when it doubles none. -/
theorem namesDistinct_insert_iff (hkeyed : t.Everywhere WellKeyed)
    (hnames : t.Everywhere NamesDistinct) {step : Cursor × Item} {parent : Position}
    (hdest : t.destination step.1 step.2 = .ok (parent, x)) :
    (t.insert parent x).1.Everywhere NamesDistinct ↔ ¬ t.DoublesNameAt step := by
  constructor
  · rintro h ⟨parent', x', n, hdest', hn, hdoubles⟩
    obtain ⟨rfl, rfl⟩ := Prod.mk.inj (Except.ok.inj (hdest.symm.trans hdest'))
    have hget : (t.insert parent x).1.get? parent = some (n.accept x).1 := by
      simp only [insert, hn]
      rw [get?_modify_self, hn]
      rfl
    exact (namesDistinct_accept_iff (hkeyed _ _ hn) (hnames _ _ hn) x).mp (h _ _ hget) hdoubles
  · intro h
    refine hnames.insert (fun i j a b k hi => by simp at hi) fun n hn => ?_
    refine (namesDistinct_accept_iff (hkeyed _ _ hn) (hnames _ _ hn) x).mpr fun hdoubles => ?_
    exact h ⟨parent, x, n, hdest, hn, hdoubles⟩

/-- **Siblings along a run.**  Functions below one node always differ in their minimal
form.  Other items below one node differ in their name throughout a run exactly when no
step doubles a name, and no step does if none lets an item land on a function. -/
theorem namesDistinct_throughout_iff (steps : List (Cursor × Item)) :
    Throughout steps (Everywhere FormsDistinct) ∧
      (Throughout steps (Everywhere NamesDistinct) ↔ NoStep steps DoublesNameAt) ∧
      (NoStep steps LandsOnFunctionAt → NoStep steps DoublesNameAt) := by
  have hkeyed := throughout_wellKeyed steps
  refine ⟨?_, ⟨?_, ?_⟩, ?_⟩
  · intro before t hprefix h q n hn
    exact (hkeyed before t hprefix h q n hn).formsDistinct
  · intro hnames before step t hprefix h hdoubles
    have hbefore : before <+: steps := (List.prefix_append _ _).trans hprefix
    obtain ⟨parent, x, n, hdest, hn, -⟩ := id hdoubles
    obtain ⟨placed, hplace, htree, -⟩ := place_of_destination hdest
    have hafter : empty.placeEach (before ++ [step]) = .ok (t.insert parent x).1 :=
      placeEach_concat.mpr ⟨t, h, by rw [hplace, ← htree]; rfl⟩
    exact (namesDistinct_insert_iff (hkeyed before t hbefore h) (hnames before t hbefore h)
      hdest).mp (hnames _ _ hprefix hafter) hdoubles
  · intro hno
    refine throughout_of_step (everywhere_empty fun i j a b k hi => by simp at hi) ?_
    intro before step t parent x hprefix h hnames hdest
    have hbefore : before <+: steps := (List.prefix_append _ _).trans hprefix
    exact (namesDistinct_insert_iff (hkeyed before t hbefore h) hnames hdest).mpr
      (hno before step t hprefix h)
  · -- names are held by keys as long as no item lands on a function
    intro hno
    have hheld : Throughout steps (Everywhere NamesHeld) := by
      refine throughout_of_step (everywhere_empty (by simp [NamesHeld])) ?_
      intro before step t parent x hprefix h hheld hdest
      have hbefore : before <+: steps := (List.prefix_append _ _).trans hprefix
      refine hheld.insert (by simp [NamesHeld]) fun n hn => ?_
      refine namesHeld_accept (hkeyed before t hbefore h _ _ hn) (hheld _ _ hn) fun hlands => ?_
      exact hno before step t hprefix h ⟨parent, x, n, hdest, hn, hlands⟩
    rintro before step t hprefix h ⟨parent, x, n, hdest, hn, hdoubles⟩
    have hbefore : before <+: steps := (List.prefix_append _ _).trans hprefix
    refine not_doublesName (hheld before t hbefore h _ _ hn) (fun hlands => ?_) hdoubles
    exact hno before step t hprefix h ⟨parent, x, n, hdest, hn, hlands⟩

/-- The items of a file in which a word, taken for a function, and a class compete for a
key. -/
def competingItems : List Item :=
  Source.scan "a.h".toList
    ["//! A".toList, "class Foo final;".toList, "//! B".toList, "Foo;".toList, "//! C".toList,
      "class Foo;".toList]

/-- Names double: the word takes the key of the class, and the class declared again takes
over the node of the word. -/
theorem namesDistinct_fails :
    ¬ Throughout (competingItems.map fun item => (none, item)) (Everywhere NamesDistinct) := by
  intro h
  have hrun : (empty.placeEach (competingItems.map fun item => (none, item))).toOption.map
      (fun t => t.entries.map fun e => e.item.ownName?) =
        some [some "Foo".toList, some "Foo".toList] := by
    decide +kernel
  cases hplace : empty.placeEach (competingItems.map fun item => (none, item)) with
  | error e =>
    rw [hplace] at hrun
    exact absurd hrun (by simp [Except.toOption])
  | ok t =>
    rw [hplace] at hrun
    obtain ⟨a, rest, hes, ha, hrest⟩ := List.map_eq_cons_iff.mp (Option.some.inj hrun)
    obtain ⟨b, rest, rfl, hb, -⟩ := List.map_eq_cons_iff.mp hrest
    have hfirst : t.entries[0]? = some a := by rw [hes]; rfl
    have hsecond : t.entries[1]? = some b := by rw [hes]; rfl
    have := h _ t (List.prefix_refl _) hplace [] t (get?_nil t) hfirst hsecond ha hb
    omega

end Tree

end DocTree
