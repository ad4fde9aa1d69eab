/-
Sessions.

A session reads files into one tree and may sort the top level in between.  Beside the
tree it keeps what was placed where, so that one can speak of all the items that ever
came to a scope: in the tree they may have been merged.

* `ClashFreeAt` — in a scope, the minimal form of no function is the name of another item;
* `Session.registered_run` — in such a scope every child is registered under the key of
  its own item, through every merge and every sort.

Sorting moves the scopes at the top level, and what was placed in them moves along
(`Tree.exists_followSort_eq`).
-/
import DocTree.Proofs.Siblings
import DocTree.Tree.Order
import Mathlib.Data.List.Nodup

namespace DocTree

/-- What was placed: the scope, and the item as it appeared there. -/
abbrev Arrivals := List (Position × Item)

/-- What is placed when items are placed one after the other, up to the first failure. -/
def Source.arrivalsFrom (t : Tree) (cursor : Cursor) : List Item → Arrivals
  | [] => []
  | item :: rest =>
    match t.destination cursor item, t.place cursor item with
    | .ok arrival, .ok placed => arrival :: arrivalsFrom placed.tree placed.cursor rest
    | _, _ => []

/-- What can be done in a session. -/
inductive Action where
  | read (file : Text) (lines : List Text)
  | sort

/-- A tree and what was placed in it. -/
structure Session where
  tree : Tree := .empty
  placed : Arrivals := []

namespace Session

/-- Reads a file, as far as it can be placed, or sorts the top level. -/
def perform (s : Session) : Action → Session
  | .read file lines =>
    { tree := (Source.placeAll s.tree file lines).tree
      placed := s.placed ++ Source.arrivalsFrom s.tree none (Source.scan file lines) }
  | .sort =>
    { tree := s.tree.sortChildren
      placed := s.placed.map fun arrival => (s.tree.followSort [] arrival.1, arrival.2) }

/-- The session that performs the actions in order. -/
def run (actions : List Action) : Session := actions.foldl perform {}

end Session

/-- No function placed in the scope at `p` has a minimal form that is the name of another
item placed there. -/
def ClashFreeAt (placed : Arrivals) (p : Position) : Prop :=
  ∀ f g k, (p, f) ∈ placed → (p, g) ∈ placed → f.form? = some k → g.ownName? ≠ some k

/-- No scope of the session has a clash. -/
def Session.ClashFree (s : Session) : Prop := ∀ p, ClashFreeAt s.placed p

/-- The children of a scope are registered under the keys of their items, and each key is
that of an item placed there. -/
structure Registered (placed : Arrivals) (p : Position) (es : List Entry) : Prop where
  keys : KeysDistinct es
  key_eq : ∀ e ∈ es, e.key = Tree.registeredKey e.item
  placed : ∀ e ∈ es, ∀ k, e.key = some k →
    ∃ x, (p, x) ∈ placed ∧ x.isFunction = e.item.isFunction ∧ Tree.registeredKey x = some k

section Registered

variable {placed placed' : Arrivals} {p p' : Position} {es es' : List Entry} {x : Item}

theorem Registered.nil : Registered placed p [] where
  keys := by intro i j a b k hi; simp at hi
  key_eq := by simp
  placed := by simp

/-- More arrivals, or a scope that has moved, keep the children registered. -/
theorem Registered.mono (h : Registered placed p es)
    (hsub : ∀ x, (p, x) ∈ placed → (p', x) ∈ placed') : Registered placed' p' es where
  keys := h.keys
  key_eq := h.key_eq
  placed := by
    intro e he k hk
    obtain ⟨x, hx, hrest⟩ := h.placed e he k hk
    exact ⟨x, hsub x hx, hrest⟩

theorem ClashFreeAt.anti (h : ClashFreeAt placed' p')
    (hsub : ∀ x, (p, x) ∈ placed → (p', x) ∈ placed') : ClashFreeAt placed p :=
  fun f g k hf hg => h f g k (hsub f hf) (hsub g hg)

/-- Without a clash, items of one key are both functions or both not. -/
theorem ClashFreeAt.isFunction_eq (h : ClashFreeAt placed p) {x y : Item} {k : Text}
    (hx : (p, x) ∈ placed) (hy : (p, y) ∈ placed) (hxk : Tree.registeredKey x = some k)
    (hyk : Tree.registeredKey y = some k) : x.isFunction = y.isFunction := by
  rcases Tree.registeredKey_eq_some.mp hxk with hxk | hxk <;>
    rcases Tree.registeredKey_eq_some.mp hyk with hyk | hyk
  · rw [(Item.form?_eq_some.mp hxk).1, (Item.form?_eq_some.mp hyk).1]
  · exact absurd hyk (h x y k hx hy hxk)
  · exact absurd hxk (h y x k hy hx hyk)
  · rw [(Item.ownName?_eq_some.mp hxk).1, (Item.ownName?_eq_some.mp hyk).1]

/-- Merging an item with one of the same key and sort gives an item of that key. -/
theorem registeredKey_merge {old new : Item} {k : Text} (hold : Tree.registeredKey old = some k)
    (hnew : Tree.registeredKey new = some k) (hfun : new.isFunction = old.isFunction) :
    Tree.registeredKey (old.merge new) = some k := by
  rcases Tree.registeredKey_eq_some.mp hold with hold | hold <;>
    rcases Tree.registeredKey_eq_some.mp hnew with hnew | hnew
  · obtain ⟨-, hmin, hne⟩ := Item.form?_eq_some.mp hold
    obtain ⟨hf, hmin', -⟩ := Item.form?_eq_some.mp hnew
    have hmerge := Item.minimal_merge_of_eq (hmin.trans hmin'.symm)
    exact Tree.registeredKey_of_minimal hf (hmerge.trans hmin') hne
  · rw [(Item.form?_eq_some.mp hold).1, (Item.ownName?_eq_some.mp hnew).1] at hfun
    exact absurd hfun (by simp)
  · rw [(Item.ownName?_eq_some.mp hold).1, (Item.form?_eq_some.mp hnew).1] at hfun
    exact absurd hfun (by simp)
  · obtain ⟨-, hname, hne⟩ := Item.ownName?_eq_some.mp hold
    obtain ⟨hf, hname', -⟩ := Item.ownName?_eq_some.mp hnew
    have hmerge := Item.name_merge_of_le hname hname' (Nat.le_refl _)
    exact Tree.registeredKey_of_name hf (hmerge.trans hname) hne

/-- The step: an arrival in a scope without a clash keeps the children registered. -/
theorem Registered.joins (h : Registered placed p es) (hclash : ClashFreeAt placed' p)
    (hsub : ∀ y, (p, y) ∈ placed → (p, y) ∈ placed') (hx : (p, x) ∈ placed')
    (hjoin : Joins x es es') : Registered placed' p es' := by
  -- a child under the key of the item is of the same sort
  have hsort : ∀ e ∈ es, ∀ k, Tree.registeredKey x = some k → e.key = some k →
      x.isFunction = e.item.isFunction := by
    intro e he k hxk hek
    obtain ⟨y, hy, hyfun, hyk⟩ := h.placed e he k hek
    rw [← hyfun]
    exact hclash.isFunction_eq hx (hsub y hy) hxk hyk
  have hmono := h.mono hsub
  refine ⟨h.keys.joins hjoin, ?_, ?_⟩
  · intro e he
    rcases hjoin.mem_cases he with he | ⟨e₀, he₀, k, hxk, hk, -, rfl⟩ | ⟨e₀, he₀, hfree, rfl⟩ | rfl
    · exact h.key_eq e he
    · have hold : Tree.registeredKey e₀.item = some k := (h.key_eq e₀ he₀).symm.trans hk
      exact hk.trans (registeredKey_merge hold hxk (hsort e₀ he₀ k hxk hk)).symm
    · rw [Entry.item_release, ← h.key_eq e₀ he₀]
      -- two functions of one key have one minimal form, so the key is not given up
      refine Option.ext fun k =>
        Entry.key_release_eq_some.trans (and_iff_left_of_imp fun hk hxk => ?_)
      obtain ⟨hxfun, hne⟩ := hfree k hxk hk
      have hfun : e₀.item.isFunction = true := (hsort e₀ he₀ k hxk hk).symm.trans hxfun
      have hmin := Tree.minimal_of_registeredKey ((h.key_eq e₀ he₀).symm.trans hk) hfun
      exact hne (hmin.trans (Tree.minimal_of_registeredKey hxk hxfun).symm)
    · rfl
  · intro e he k hk
    rcases hjoin.mem_cases he with he | ⟨e₀, -, k₀, hxk, hk₀, -, rfl⟩ | ⟨e₀, he₀, -, rfl⟩ | rfl
    · exact hmono.placed e he k hk
    · obtain rfl := Option.some.inj (hk₀.symm.trans hk)
      exact ⟨x, hx, rfl, hxk⟩
    · rw [Entry.item_release]
      exact hmono.placed e₀ he₀ k (Entry.key_release_eq_some.mp hk).1
    · exact ⟨x, hx, rfl, hk⟩

end Registered

/-! ### Sorting -/

theorem distinct_iff_pairwise {label : Entry → Option Text} {es : List Entry} :
    Distinct label es ↔ es.Pairwise fun a b => ∀ k, label a = some k → label b ≠ some k := by
  rw [List.pairwise_iff_getElem]
  constructor
  · intro h i j hi hj hlt k ha hb
    have := h (List.getElem?_eq_getElem hi) (List.getElem?_eq_getElem hj) ha hb
    omega
  · intro h i j a b k hi hj ha hb
    obtain ⟨hi', rfl⟩ := List.getElem?_eq_some_iff.mp hi
    obtain ⟨hj', rfl⟩ := List.getElem?_eq_some_iff.mp hj
    rcases Nat.lt_trichotomy i j with hlt | heq | hlt
    · exact absurd hb (h i j hi' hj' hlt k ha)
    · exact heq
    · exact absurd ha (h j i hj' hi' hlt k hb)

theorem Distinct.perm {label : Entry → Option Text} {es es' : List Entry}
    (h : Distinct label es) (hperm : es'.Perm es) : Distinct label es' := by
  have hsymm : ∀ {a b : Entry}, (∀ k, label a = some k → label b ≠ some k) →
      ∀ k, label b = some k → label a ≠ some k := fun hab k hb ha => hab k ha hb
  exact distinct_iff_pairwise.mpr ((hperm.pairwise_iff hsymm).mpr (distinct_iff_pairwise.mp h))

/-- The order of the children does not matter. -/
theorem Registered.perm {placed : Arrivals} {p : Position} {es es' : List Entry}
    (h : Registered placed p es) (hperm : es'.Perm es) : Registered placed p es' where
  keys := h.keys.perm hperm
  key_eq := fun e he => h.key_eq e (hperm.mem_iff.mp he)
  placed := fun e he => h.placed e (hperm.mem_iff.mp he)

namespace Tree

variable {t : Tree}

theorem followSort_nil (t : Tree) : t.followSort [] [] = [] := rfl

theorem entries_sortChildren_perm (t : Tree) : t.sortChildren.entries.Perm t.entries :=
  (List.mergeSort_perm _ _).map entry

/-- Sorting takes each child from one index. -/
theorem sortedIndices_perm (t : Tree) : t.sortedIndices.Perm (List.range t.children.length) := by
  have hperm : t.sortedIndices.Perm (t.children.zipIdx.map Prod.snd) :=
    (List.mergeSort_perm _ _).map Prod.snd
  rwa [List.zipIdx_map_snd, ← List.range_eq_range'] at hperm

theorem nodup_sortedIndices (t : Tree) : t.sortedIndices.Nodup :=
  t.sortedIndices_perm.nodup_iff.mpr List.nodup_range

/-- Every node below the root of the sorted tree was somewhere before, and sorting takes
it, with all below it, from there to where it is. -/
theorem exists_followSort_eq {j : Nat} {c : Tree} (h : t.sortChildren.children[j]? = some c) :
    ∃ i, t.children[i]? = some c ∧ ∀ r, t.followSort [] (i :: r) = j :: r := by
  -- sorting the children with their indices sorts the children
  let pairs := t.children.zipIdx.mergeSort fun a b => nameLe a.1 b.1
  have hfst : pairs.map Prod.fst = t.sortChildren.children := by
    show pairs.map Prod.fst = t.children.mergeSort nameLe
    have hmap := List.map_mergeSort (r := fun a b : Tree × Nat => nameLe a.1 b.1) (s := nameLe)
      (f := Prod.fst) (l := t.children.zipIdx) fun _ _ _ _ => rfl
    rwa [List.zipIdx_map_fst] at hmap
  have hperm : pairs.Perm t.children.zipIdx := List.mergeSort_perm _ _
  rw [← hfst, List.getElem?_map] at h
  obtain ⟨⟨c', i⟩, hj, rfl⟩ := Option.map_eq_some_iff.mp h
  refine ⟨i, ?_, fun r => ?_⟩
  · exact List.mem_zipIdx_iff_getElem?.mp (hperm.mem_iff.mp (List.mem_of_getElem? hj))
  · have hindex : t.sortedIndices[j]? = some i := by
      show (pairs.map Prod.snd)[j]? = some i
      rw [List.getElem?_map, hj]
      rfl
    obtain ⟨hlt, hi⟩ := List.getElem?_eq_some_iff.mp hindex
    have hidx : t.sortedIndices.idxOf i = j := by
      rw [← hi]
      exact t.nodup_sortedIndices.idxOf_getElem j hlt
    show t.sortedIndices.idxOf i :: r = j :: r
    rw [hidx]

end Tree

/-! ### Sessions -/

/-- Every scope without a clash has its children registered. -/
def WellRegistered (t : Tree) (placed : Arrivals) : Prop :=
  ∀ q node, t.get? q = some node → ClashFreeAt placed q → Registered placed q node.entries

theorem WellRegistered.insert {t : Tree} {placed : Arrivals} (h : WellRegistered t placed)
    (parent : Position) (x : Item) :
    WellRegistered (t.insert parent x).1 (placed ++ [(parent, x)]) := by
  intro q node hq hclash
  have hsub : ∀ y, (q, y) ∈ placed → (q, y) ∈ placed ++ [(parent, x)] :=
    fun y hy => List.mem_append_left _ hy
  rcases Tree.get?_insert_cases hq with ⟨rfl, n, hn, rfl⟩ | ⟨-, ⟨n, hn, hent⟩ | hent⟩
  · have hold := h q n hn (hclash.anti hsub)
    exact hold.joins hclash hsub (by simp) (Tree.joins_accept hold.keys x)
  · rw [hent]
    exact (h q n hn (hclash.anti hsub)).mono hsub
  · rw [hent]
    exact .nil

theorem WellRegistered.placeFrom {items : List Item} :
    ∀ {t : Tree} {placed : Arrivals} (cursor : Cursor), WellRegistered t placed →
      WellRegistered (Source.placeFrom t cursor items).tree
        (placed ++ Source.arrivalsFrom t cursor items) := by
  induction items with
  | nil =>
    intro t placed cursor h
    simpa [Source.placeFrom, Source.arrivalsFrom] using h
  | cons item rest ih =>
    intro t placed cursor h
    unfold Source.placeFrom Source.arrivalsFrom
    cases hplace : t.place cursor item with
    | error e =>
      -- a failure leaves the tree as it was, and nothing is placed
      have hnone : (match t.destination cursor item, (.error e : Except Error Placement) with
          | .ok arrival, .ok next =>
            arrival :: Source.arrivalsFrom next.tree next.cursor rest
          | _, _ => []) = [] := by
        split
        · simp_all
        · rfl
      simpa [hnone] using h
    | ok next =>
      obtain ⟨parent, x, hdest, htree, -⟩ := Tree.destination_of_place hplace
      have hstep := h.insert parent x
      rw [← htree] at hstep
      have := ih next.cursor hstep
      simpa [hdest] using this

theorem WellRegistered.sort {t : Tree} {placed : Arrivals} (h : WellRegistered t placed) :
    WellRegistered t.sortChildren
      (placed.map fun arrival => (t.followSort [] arrival.1, arrival.2)) := by
  intro q node hq hclash
  have hmoved : ∀ {p : Position}, t.followSort [] p = q → ∀ x, (p, x) ∈ placed →
      (q, x) ∈ placed.map fun arrival => (t.followSort [] arrival.1, arrival.2) := by
    intro p hp x hx
    exact List.mem_map.mpr ⟨(p, x), hx, by rw [hp]⟩
  cases q with
  | nil =>
    obtain rfl := Option.some.inj hq
    have hsub := hmoved t.followSort_nil
    exact ((h [] t (Tree.get?_nil t) (hclash.anti hsub)).mono hsub).perm
      t.entries_sortChildren_perm
  | cons j r =>
    rw [Tree.get?] at hq
    cases hj : t.sortChildren.children[j]? with
    | none => rw [hj] at hq; exact absurd hq (by simp)
    | some c =>
      rw [hj] at hq
      obtain ⟨i, hi, hfollow⟩ := Tree.exists_followSort_eq hj
      have hget : t.get? (i :: r) = some node := by rw [Tree.get?, hi]; exact hq
      have hsub := hmoved (hfollow r)
      exact (h (i :: r) node hget (hclash.anti hsub)).mono hsub

/-- In every session, the scopes without a clash have their children registered. -/
theorem Session.registered_run (actions : List Action) :
    WellRegistered (run actions).tree (run actions).placed := by
  unfold run
  induction actions using List.reverseRecOn with
  | nil =>
    intro q node hq _
    have : node.entries = [] := by
      refine Tree.everywhere_empty (P := fun es => es = []) rfl q node hq
    rw [this]
    exact .nil
  | append_singleton actions action ih =>
    rw [List.foldl_append]
    cases action with
    | read file lines => exact .placeFrom none ih
    | sort => exact ih.sort

end DocTree
