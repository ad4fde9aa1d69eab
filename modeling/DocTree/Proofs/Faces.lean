/-
Nodes by themselves.

What a node is apart from the nodes below it is its `Face`: the item, the number of its
children and the table in which it finds them by key.  Putting an item below a node changes the
faces of a tree in one of two ways:

* `Tree.AppendedTo` — the item has become the last child of the node, and the table of the node
  has it under its key;
* `Tree.MergedInto` — the item has been merged into the child that the table of the node has
  under its key.

Which of the two is decided by `Tree.Receives`, and every other face stays
(`Tree.insert_cases`).
-/
import DocTree.Proofs.Insertion

namespace DocTree

/-- What a node is by itself: its item, the number of its children, and under which keys it
finds them. -/
structure Face where
  item : Item
  size : Nat
  table : Text → Option Nat

/-- The face of a node that has got one more child. -/
def Face.extend (F : Face) (x : Item) : Face where
  item := F.item
  size := F.size + 1
  table := fun k => if Tree.registeredKey x = some k then some F.size else F.table k

/-- The face of a node whose item has been merged with another. -/
def Face.merge (F : Face) (x : Item) : Face := { F with item := F.item.merge x }

namespace Tree

variable {t t' node : Tree} {x : Item} {p q r parent position : Position} {k : Text} {i : Nat}

def face (t : Tree) : Face := ⟨t.item, t.children.length, t.childIndex?⟩

/-- The face of the node at a position. -/
def face? (t : Tree) (q : Position) : Option Face := (t.get? q).map face

theorem face?_of_get? (h : t.get? q = some node) : t.face? q = some node.face := by
  rw [face?, h]
  rfl

theorem exists_get?_of_face? {F : Face} (h : t.face? q = some F) :
    ∃ node, t.get? q = some node ∧ node.face = F :=
  Option.map_eq_some_iff.mp h

theorem face?_append (t : Tree) (p q : Position) :
    t.face? (p ++ q) = (t.get? p).bind fun node => node.face? q := by
  rw [face?, get?_append]
  cases t.get? p <;> rfl

theorem face?_cons (t : Tree) (i : Nat) (q : Position) :
    t.face? (i :: q) = t.children[i]?.bind fun c => c.face? q := by
  rw [face?, get?]
  cases t.children[i]? <;> rfl

/-- The face of a child. -/
theorem face?_concat (h : t.get? p = some node) (i : Nat) :
    t.face? (p ++ [i]) = node.children[i]?.map face := by
  rw [face?_append, h, Option.bind_some, face?_cons]
  cases node.children[i]? <;> rfl

/-! ### Tables -/

theorem childIndex?_eq_some : t.childIndex? k = some i ↔ ∃ c, t.child? k = some (i, c) := by
  rw [child?]
  constructor
  · intro h
    obtain ⟨hlt, -⟩ := List.findIdx?_eq_some_iff_getElem.mp h
    exact ⟨t.children[i], by simp [h, hlt]⟩
  · rintro ⟨c, hc⟩
    obtain ⟨j, hj, hc⟩ := Option.bind_eq_some_iff.mp hc
    obtain ⟨d, -, heq⟩ := Option.map_eq_some_iff.mp hc
    obtain ⟨rfl, rfl⟩ := Prod.mk.inj heq
    exact hj

/-- A table is made of the keys of the children. -/
theorem childIndex?_eq_findIdx? (t : Tree) (k : Text) :
    t.childIndex? k = (t.children.map key).findIdx? (· == some k) := by
  rw [List.findIdx?_map]
  rfl

/-- A table has existing children only. -/
theorem exists_child_of_table (h : t.childIndex? k = some i) :
    ∃ c, t.children[i]? = some c ∧ c.key = some k := by
  obtain ⟨c, hc⟩ := childIndex?_eq_some.mp h
  obtain ⟨hi, hkey, -⟩ := child?_eq_some.mp hc
  exact ⟨c, hi, hkey⟩

/-- A child stands under one key. -/
theorem table_injective {k' : Text} (h : t.childIndex? k = some i)
    (h' : t.childIndex? k' = some i) : k = k' := by
  obtain ⟨c, hc, hkey⟩ := exists_child_of_table h
  obtain ⟨c', hc', hkey'⟩ := exists_child_of_table h'
  obtain rfl := Option.some.inj (hc.symm.trans hc')
  exact Option.some.inj (hkey.symm.trans hkey')

/-- A child that is released gives up the one key and keeps any other. -/
theorem key_release_eq_some {key : Option Text} :
    (t.release key).key = some k ↔ t.key = some k ∧ key ≠ some k := by
  have hentry : (t.release key).key = (t.entry.release key).key := by
    unfold release Entry.release entry
    dsimp only
    split <;> rfl
  rw [hentry]
  exact Entry.key_release_eq_some

/-- The key of a new child leads to it, every other key where it led before. -/
theorem childIndex?_append (t : Tree) (x : Item) (k : Text) :
    (t.append x).childIndex? k =
      if registeredKey x = some k then some t.children.length else t.childIndex? k := by
  have hkey : ∀ c : Tree, ((c.release (registeredKey x)).key == some k) =
      (c.key == some k && registeredKey x != some k) := by
    intro c
    rw [Bool.eq_iff_iff]
    simpa using key_release_eq_some
  simp only [childIndex?, append, List.findIdx?_append, List.findIdx?_map, Function.comp_def, hkey]
  by_cases hx : registeredKey x = some k
  · have hnone : t.children.findIdx? (fun _ => false) = none := by simp [List.findIdx?_eq_none_iff]
    simp [hx, hnone]
  · have hne : (registeredKey x != some k) = true := by simpa using hx
    simp [hx, hne]

/-! ### Faces of a changed tree -/

theorem face_append (t : Tree) (x : Item) : (t.append x).face = t.face.extend x := by
  simp only [face, Face.extend, Face.mk.injEq]
  exact ⟨rfl, by simp [append], funext (childIndex?_append t x)⟩

theorem face?_release (key : Option Text) (t : Tree) (q : Position) :
    (t.release key).face? q = t.face? q := by
  unfold release
  split
  · cases q <;> rfl
  · rfl

/-- A change that its parent does not see is seen neither above nor beside the changed node. -/
theorem face?_modify_of_not_prefix {f : Tree → Tree} (hf : ∀ n, (f n).key = n.key)
    (h : ¬ p <+: q) : (t.modify f p).face? q = t.face? q := by
  have hkey : ∀ (u : Tree) (p : Position), (u.modify f p).key = u.key := by
    intro u p
    cases p with
    | nil => exact hf u
    | cons i p => rfl
  induction p generalizing t q with
  | nil => exact absurd List.nil_prefix h
  | cons i p ih =>
    cases q with
    | nil =>
      -- the changed child has kept its key
      have htable : (t.modify f (i :: p)).childIndex? = t.childIndex? := by
        funext k
        rw [childIndex?_eq_findIdx?, childIndex?_eq_findIdx?]
        congr 1
        apply List.ext_getElem?
        intro j
        simp only [modify, List.getElem?_map, List.getElem?_modify]
        cases t.children[j]? with
        | none => rfl
        | some c => by_cases hij : i = j <;> simp [hij, hkey]
      simp only [face?, get?_nil, Option.map_some, face, htable]
      simp [modify]
    | cons j q =>
      rw [face?_cons, face?_cons, modify, List.getElem?_modify]
      cases t.children[j]? with
      | none => rfl
      | some c =>
        by_cases hij : i = j
        · subst hij
          simpa using ih (fun hpq => h (by simpa using hpq))
        · simp [hij]

theorem face?_modify_append {f : Tree → Tree} (t : Tree) (p q : Position) :
    (t.modify f p).face? (p ++ q) = (t.get? p).bind fun n => (f n).face? q := by
  rw [face?_append, get?_modify_self]
  cases t.get? p <;> rfl

/-! ### Insertions -/

/-- The item has become the last child of the node at `parent`, and nothing else has changed
than the entry for its key in the table there. -/
structure AppendedTo (t t' : Tree) (parent : Position) (x : Item) (position : Position) :
    Prop where
  last : ∃ F, t.face? parent = some F ∧ position = parent ++ [F.size] ∧
    t'.face? parent = some (F.extend x)
  fresh : t.face? position = none
  node : t'.face? position = some ⟨x, 0, fun _ => none⟩
  frame : ∀ q, q ≠ parent → q ≠ position → t'.face? q = t.face? q

/-- The item has been merged into the child of the node at `parent` that is registered under
its key, and nothing else has changed. -/
structure MergedInto (t t' : Tree) (parent : Position) (x : Item) (position : Position) :
    Prop where
  registered : ∃ F k i, t.face? parent = some F ∧ registeredKey x = some k ∧
    F.table k = some i ∧ position = parent ++ [i]
  node : ∃ F, t.face? position = some F ∧ t'.face? position = some (F.merge x)
  frame : ∀ q, q ≠ position → t'.face? q = t.face? q

/-- A child that is registered under the key of the item takes it, unless the item is a
function of another minimal form. -/
def Takes (F : Face) (x : Item) : Prop := F.item.minimal = x.minimal ∨ x.isFunction = false

/-- The table of the node at `parent` has a child under the key of the item, which takes it. -/
def Receives (t : Tree) (parent : Position) (x : Item) : Prop :=
  ∃ F k i G, t.face? parent = some F ∧ registeredKey x = some k ∧ F.table k = some i ∧
    t.face? (parent ++ [i]) = some G ∧ Takes G x

theorem receives_iff (h : t.get? parent = some node) :
    t.Receives parent x ↔ ∃ k i c, registeredKey x = some k ∧ node.child? k = some (i, c) ∧
      Takes c.face x := by
  constructor
  · rintro ⟨F, k, i, G, hF, hk, hi, hG, htakes⟩
    obtain rfl := Option.some.inj ((face?_of_get? h).symm.trans hF)
    obtain ⟨c, hc⟩ := childIndex?_eq_some.mp hi
    rw [face?_concat h, (child?_eq_some.mp hc).1] at hG
    obtain rfl := Option.some.inj hG
    exact ⟨k, i, c, hk, hc, htakes⟩
  · rintro ⟨k, i, c, hk, hc, htakes⟩
    refine ⟨node.face, k, i, c.face, face?_of_get? h, hk, childIndex?_eq_some.mpr ⟨c, hc⟩, ?_,
      htakes⟩
    rw [face?_concat h, (child?_eq_some.mp hc).1]
    rfl

/-- A node that takes an item as its last child. -/
theorem appendedTo_of_accept (h : t.get? parent = some node)
    (haccept : node.accept x = (node.append x, node.children.length)) :
    t.AppendedTo (t.insert parent x).1 parent x (t.insert parent x).2 := by
  have hinsert : t.insert parent x =
      (t.modify (fun n => (n.accept x).1) parent, parent ++ [node.children.length]) := by
    simp [insert, h, haccept]
  have hbelow : ∀ q, (t.insert parent x).1.face? (parent ++ q) = (node.append x).face? q := by
    intro q
    rw [hinsert, face?_modify_append, h, Option.bind_some, haccept]
  have hnew : (node.append x).children[node.children.length]? =
      some { item := x, key := registeredKey x } := by
    simp [append]
  rw [hinsert] at hbelow ⊢
  refine ⟨⟨node.face, face?_of_get? h, rfl, ?_⟩, ?_, ?_, fun q hparent hposition => ?_⟩
  · have hroot := hbelow []
    rw [List.append_nil] at hroot
    rw [hroot, face?, get?_nil, Option.map_some, face_append]
  · rw [face?_append, h, Option.bind_some, face?_cons]
    simp
  · rw [hbelow, face?_cons, hnew]
    rfl
  · by_cases hq : parent <+: q
    · obtain ⟨r, rfl⟩ := hq
      rw [hbelow, face?_append, h, Option.bind_some]
      cases r with
      | nil => exact absurd (List.append_nil parent) hparent
      | cons j r =>
        rw [face?_cons, face?_cons]
        rcases Nat.lt_trichotomy j node.children.length with hlt | rfl | hgt
        · rw [append, List.getElem?_append_left (by simpa using hlt), List.getElem?_map]
          cases node.children[j]? with
          | none => rfl
          | some c => exact face?_release _ c r
        · -- the new node has no children
          rw [hnew]
          cases r with
          | nil => exact absurd rfl hposition
          | cons l r => simp [face?_cons]
        · rw [append, List.getElem?_eq_none (by simp; omega), List.getElem?_eq_none (by omega)]
    · exact face?_modify_of_not_prefix (fun n => congrArg Entry.key (entry_accept n x)) hq

/-- A node that merges an item with one of its children. -/
theorem mergedInto_of_accept {c : Tree} (h : t.get? parent = some node)
    (hk : registeredKey x = some k) (hc : node.child? k = some (i, c))
    (haccept : node.accept x = (node.modify (·.mergeItem x) [i], i)) :
    t.MergedInto (t.insert parent x).1 parent x (t.insert parent x).2 := by
  have hi := (child?_eq_some.mp hc).1
  have hinsert : t.insert parent x =
      (t.modify (fun n => (n.accept x).1) parent, parent ++ [i]) := by
    simp [insert, h, haccept]
  have hbelow : ∀ q, (t.insert parent x).1.face? (parent ++ q) =
      (node.modify (·.mergeItem x) [i]).face? q := by
    intro q
    rw [hinsert, face?_modify_append, h, Option.bind_some, haccept]
  have hchild : t.get? (parent ++ [i]) = some c := by
    rw [get?_append, h, Option.bind_some, get?, hi]
    exact get?_nil c
  rw [hinsert] at hbelow ⊢
  refine ⟨⟨node.face, k, i, face?_of_get? h, hk, childIndex?_eq_some.mpr ⟨c, hc⟩, rfl⟩,
    ⟨c.face, face?_of_get? hchild, ?_⟩, fun q hposition => ?_⟩
  · have hself := face?_modify_append (f := (·.mergeItem x)) node [i] []
    rw [List.append_nil] at hself
    rw [hbelow, hself, get?, hi]
    rfl
  · by_cases hq : parent <+: q
    · obtain ⟨r, rfl⟩ := hq
      rw [hbelow, face?_append, h, Option.bind_some]
      by_cases hr : [i] <+: r
      · obtain ⟨s, rfl⟩ := hr
        rw [face?_modify_append, face?_append]
        cases s with
        | nil => exact absurd rfl hposition
        | cons j s => rfl
      · exact face?_modify_of_not_prefix (fun _ => rfl) hr
    · exact face?_modify_of_not_prefix (fun n => congrArg Entry.key (entry_accept n x)) hq

/-- An item below an existing node is merged where it is received, and appended otherwise. -/
theorem insert_cases (h : t.get? parent = some node) (x : Item) :
    (t.Receives parent x ∧ t.MergedInto (t.insert parent x).1 parent x (t.insert parent x).2) ∨
      (¬ t.Receives parent x ∧
        t.AppendedTo (t.insert parent x).1 parent x (t.insert parent x).2) := by
  rw [receives_iff h]
  rcases accept_cases node x with ⟨i, c, k, hk, hc, hform, haccept⟩ | ⟨hfree, haccept⟩
  · refine .inl ⟨⟨k, i, c, hk, hc, ?_⟩, mergedInto_of_accept h hk hc haccept⟩
    cases hfun : x.isFunction with
    | true => exact .inl (hform hfun)
    | false => exact .inr hfun
  · refine .inr ⟨?_, appendedTo_of_accept h haccept⟩
    rintro ⟨k, i, c, hk, hc, htakes⟩
    obtain ⟨hfun, hne⟩ := hfree i c k hk hc
    rcases htakes with hmin | hnot
    · exact hne hmin
    · rw [hfun] at hnot
      exact absurd hnot (by simp)

/-- A new last child is no child from before. -/
theorem AppendedTo.not_mergedInto (h : t.AppendedTo t' parent x position) :
    ¬ t.MergedInto t' parent x position := by
  rintro ⟨-, ⟨F, hF, -⟩, -⟩
  rw [h.fresh] at hF
  exact absurd hF (by simp)

end Tree

end DocTree
