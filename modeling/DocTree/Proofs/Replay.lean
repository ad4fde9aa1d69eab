/-
Replaying a run.

A run that has been recognized can be repeated on the tree it has made, or on that tree with its
top level sorted:

* `Tree.Relocates` — the same nodes at other positions, as after sorting;
* `Tree.Replayed` — items have been merged once more into the nodes of a tree;
* `Tree.Replayed.insert` — an item that has landed before lands on its node again;
* `Source.Steps.replay`, `Source.Reads.replay` — so does every item of a run;
* `Source.Reads.replay_eq` — in the end everything has been merged twice, which is as good as
  once, and the tree is what it was.
-/
import DocTree.Proofs.Mirror

namespace DocTree

namespace Tree

variable {t u : Tree} {σ : Position → Position} {p q parent : Position} {x y : Item} {i : Nat}

/-! ### Trees with their nodes at other positions -/

/-- The tree `u` has the nodes of `t`, each at the position to which `σ` takes it. -/
structure Relocates (σ : Position → Position) (t u : Tree) : Prop where
  nil : σ [] = []
  concat : ∀ p i, ∃ j, σ (p ++ [i]) = σ p ++ [j]
  item : ∀ q y, t.item? q = some y → u.item? (σ q) = some y
  onto : ∀ q y, u.item? q = some y → ∃ p, t.item? p = some y ∧ σ p = q
  injective : ∀ p q y z, t.item? p = some y → t.item? q = some z → σ p = σ q → p = q

theorem Relocates.refl (t : Tree) : Relocates id t t where
  nil := rfl
  concat := fun _ i => ⟨i, rfl⟩
  item := fun _ _ h => h
  onto := fun q _ h => ⟨q, h, rfl⟩
  injective := fun _ _ _ _ _ _ h => h

theorem followSort_cons (t : Tree) (i : Nat) (r : Position) :
    t.followSort [] (i :: r) = t.sortedIndices.idxOf i :: r := rfl

theorem mem_sortedIndices {c : Tree} (h : t.children[i]? = some c) : i ∈ t.sortedIndices := by
  rw [t.sortedIndices_perm.mem_iff, List.mem_range]
  exact (List.getElem?_eq_some_iff.mp h).1

/-- Sorting takes every node with it. -/
theorem get?_followSort {node : Tree} (h : t.get? q = some node) (hq : q ≠ []) :
    t.sortChildren.get? (t.followSort [] q) = some node := by
  cases q with
  | nil => exact absurd rfl hq
  | cons i r =>
    rw [get?] at h
    cases hi : t.children[i]? with
    | none => rw [hi] at h; exact absurd h (by simp)
    | some c =>
      rw [hi] at h
      have hmem := mem_sortedIndices hi
      have hlt : t.sortedIndices.idxOf i < t.sortChildren.children.length := by
        have hlength : t.sortedIndices.length = t.sortChildren.children.length := by
          simp [sortedIndices, sortChildren]
        rw [← hlength]
        exact List.idxOf_lt_length_of_mem hmem
      -- what stands there came from `i`
      have hchild := List.getElem?_eq_getElem hlt
      obtain ⟨i', hi', hfollow⟩ := exists_followSort_eq hchild
      have hindex : t.sortedIndices.idxOf i = t.sortedIndices.idxOf i' :=
        (List.cons.inj (hfollow [])).1.symm
      obtain rfl := (List.idxOf_inj hmem).mp hindex
      rw [followSort_cons, get?, hchild, ← hi', hi]
      exact h

theorem get?_sortChildren {node : Tree} (h : t.sortChildren.get? q = some node) (hq : q ≠ []) :
    ∃ p, t.get? p = some node ∧ t.followSort [] p = q := by
  cases q with
  | nil => exact absurd rfl hq
  | cons j r =>
    rw [get?] at h
    cases hj : t.sortChildren.children[j]? with
    | none => rw [hj] at h; exact absurd h (by simp)
    | some c =>
      rw [hj] at h
      obtain ⟨i, hi, hfollow⟩ := exists_followSort_eq hj
      exact ⟨i :: r, by rw [get?, hi]; exact h, hfollow r⟩

theorem Relocates.sort (t : Tree) : Relocates (t.followSort []) t t.sortChildren where
  nil := t.followSort_nil
  concat := by
    intro p i
    cases p with
    | nil => exact ⟨_, rfl⟩
    | cons j r => exact ⟨i, by rw [List.cons_append, followSort_cons, followSort_cons]; rfl⟩
  item := by
    intro q y hy
    obtain ⟨node, hnode, rfl⟩ := exists_get?_of_item? hy
    by_cases hq : q = []
    · subst hq
      obtain rfl := Option.some.inj hnode
      rfl
    · exact item?_of_get? (get?_followSort hnode hq)
  onto := by
    intro q y hy
    obtain ⟨node, hnode, rfl⟩ := exists_get?_of_item? hy
    by_cases hq : q = []
    · subst hq
      obtain rfl := Option.some.inj hnode
      exact ⟨[], rfl, t.followSort_nil⟩
    · obtain ⟨p, hp, rfl⟩ := get?_sortChildren hnode hq
      exact ⟨p, item?_of_get? hp, rfl⟩
  injective := by
    intro p q y z hy hz hpq
    cases p with
    | nil =>
      cases q with
      | nil => rfl
      | cons j s => exact absurd hpq (by rw [followSort_nil, followSort_cons]; simp)
    | cons i r =>
      cases q with
      | nil => exact absurd hpq (by rw [followSort_nil, followSort_cons]; simp)
      | cons j s =>
        rw [item?, face?_cons] at hy
        cases hi : t.children[i]? with
        | none => rw [hi] at hy; exact absurd hy (by simp)
        | some c =>
          obtain ⟨hindex, rfl⟩ := List.cons.inj hpq
          rw [(List.idxOf_inj (mem_sortedIndices hi)).mp hindex]

/-- A tree that finds its nodes still does so when its top level has been sorted. -/
theorem Recognizes.keyed_sort {L : Landings} (h : t.Recognizes L) (hclear : Unambiguous L) :
    t.sortChildren.Keyed := by
  have hmove := Relocates.sort t
  refine keyed_of_registered ⟨{}, h.tells.root, rfl⟩ (fun p i y hy => ?_) fun q node hnode => ?_
  · obtain ⟨q, hq, hmoved⟩ := hmove.onto _ _ hy
    rcases List.eq_nil_or_concat q with rfl | ⟨r, j, rfl⟩
    · exact absurd hmoved (by simp [hmove.nil])
    · rw [List.concat_eq_append] at hq
      exact (h.keyed hclear).isSome r j y hq
  · have hreg : ∀ p n, t.get? p = some n → Registered (arrivals L) p n.entries :=
      fun p n hn => h.registered p n hn (hclear.clashFree p)
    by_cases hq : q = []
    · subst hq
      obtain rfl := Option.some.inj hnode
      exact ⟨_, [], (hreg [] t (get?_nil t)).perm t.entries_sortChildren_perm⟩
    · obtain ⟨p, hp, -⟩ := get?_sortChildren hnode hq
      exact ⟨_, p, hreg p node hp⟩

/-! ### Trees after a replay -/

variable {T u' : Tree} {N : Landings} {position : Position}

/-- What has landed in `T` lands at its nodes, and has a key. -/
def Known (T : Tree) (N : Landings) : Prop :=
  ∀ landing ∈ N, (∃ y, T.item? landing.1 = some y ∧ y.identity = landing.2.identity) ∧
    (registeredKey landing.2).isSome

/-- The tree `u` is `T` with the items of the landings merged once more into its nodes. -/
structure Replayed (T : Tree) (N : Landings) (u : Tree) : Prop where
  key : u.key = T.key
  face : ∀ q, u.face? q =
    (T.face? q).map fun F => { F with item := (landedAt N q).foldl Item.merge F.item }

theorem Replayed.nil (T : Tree) : T.Replayed [] T where
  key := rfl
  face := fun q => by simp [landedAt]

theorem Replayed.item? (h : T.Replayed N u) (q : Position) :
    u.item? q = (T.item? q).map fun y => (landedAt N q).foldl Item.merge y := by
  rw [Tree.item?, h.face, Tree.item?, Option.map_map, Option.map_map]
  rfl

/-- The step: one more item is merged. -/
theorem Replayed.merged (h : T.Replayed N u) (hmerged : u.MergedInto u' parent x position)
    (hkey : u'.key = u.key) : T.Replayed (N ++ [(position, x)]) u' where
  key := hkey.trans h.key
  face := by
    intro q
    rw [landedAt_append]
    by_cases hq : q = position
    · subst hq
      obtain ⟨F, hF, hF'⟩ := hmerged.node
      rw [h.face] at hF
      obtain ⟨G, hG, rfl⟩ := Option.map_eq_some_iff.mp hF
      rw [hF', hG, landedAt_singleton_self, Option.map_some, List.foldl_append]
      rfl
    · rw [hmerged.frame q hq, h.face, landedAt_singleton_of_ne (Ne.symm hq), List.append_nil]

/-- Nodes keep their identity. -/
theorem Replayed.exists_item? (h : T.Replayed N u) (hN : T.Known N) (hy : T.item? q = some y) :
    ∃ z, u.item? q = some z ∧ z.identity = y.identity := by
  rw [h.item?, hy]
  refine ⟨_, rfl, Item.identity_foldl_merge fun x hx => ?_⟩
  obtain ⟨⟨y', hy', hid⟩, hkey⟩ := hN _ (mem_landedAt.mp hx)
  obtain rfl := Option.some.inj (hy.symm.trans hy')
  exact ⟨hid.symm, hkey⟩

theorem Replayed.exists_item?_of_some {z : Item} (h : T.Replayed N u) (hN : T.Known N)
    (hz : u.item? q = some z) : ∃ y, T.item? q = some y ∧ z.identity = y.identity := by
  have hy := hz
  rw [h.item?] at hy
  obtain ⟨y, hy, -⟩ := Option.map_eq_some_iff.mp hy
  obtain ⟨z', hz', hid⟩ := h.exists_item? hN hy
  obtain rfl := Option.some.inj (hz.symm.trans hz')
  exact ⟨y, hy, hid⟩

theorem Replayed.keyed (h : T.Replayed N u) (hN : T.Known N) (hT : T.Keyed) : u.Keyed where
  root := by
    obtain ⟨y, hy, hfun⟩ := hT.root
    obtain ⟨z, hz, hid⟩ := h.exists_item? hN hy
    exact ⟨z, hz, (congrArg Prod.fst hid).trans hfun⟩
  isSome := by
    intro p i z hz
    obtain ⟨y, hy, hid⟩ := h.exists_item?_of_some hN hz
    have hkey : registeredKey z = registeredKey y := congrArg Prod.snd hid
    rw [hkey]
    exact hT.isSome p i y hy
  table := by
    intro p F k i hF
    rw [h.face] at hF
    obtain ⟨G, hG, rfl⟩ := Option.map_eq_some_iff.mp hF
    refine (hT.table p G k i hG).trans ⟨?_, ?_⟩
    · rintro ⟨y, hy, hkey⟩
      obtain ⟨z, hz, hid⟩ := h.exists_item? hN hy
      exact ⟨z, hz, (congrArg Prod.snd hid).trans hkey⟩
    · rintro ⟨z, hz, hkey⟩
      obtain ⟨y, hy, hid⟩ := h.exists_item?_of_some hN hz
      exact ⟨y, hy, (congrArg Prod.snd hid).symm.trans hkey⟩

theorem key_insert (t : Tree) (parent : Position) (x : Item) :
    (t.insert parent x).1.key = t.key := by
  unfold Tree.insert
  split
  · exact congrArg Entry.key (entry_modify (fun n => entry_accept n x) t parent)
  · rfl

/-- An item that has landed before lands there again, and is merged. -/
theorem Replayed.insert {j : Nat} (h : T.Replayed N u) (hT : T.Keyed)
    (hN : T.Known (N ++ [(parent ++ [j], x)])) :
    (u.insert parent x).2 = parent ++ [j] ∧
      T.Replayed (N ++ [(parent ++ [j], x)]) (u.insert parent x).1 := by
  have hknown : T.Known N := fun l hl => hN l (List.mem_append_left _ hl)
  have hu := h.keyed hknown hT
  obtain ⟨⟨y, hy, hyid⟩, hsome⟩ := hN (parent ++ [j], x) (by simp)
  obtain ⟨k, hk⟩ := Option.isSome_iff_exists.mp hsome
  obtain ⟨z, hz, hzid⟩ := h.exists_item? hknown hy
  have hid : x.identity = z.identity := (hzid.trans hyid).symm
  have hzkey : registeredKey z = some k := (congrArg Prod.snd hid).symm.trans hk
  obtain ⟨node, hnode⟩ := exists_get?_of_concat hz
  have htable : node.face.table k = some j :=
    (hu.table parent node.face k j (face?_of_get? hnode)).mpr ⟨z, hz, hzkey⟩
  have hreceives : u.Receives parent x := by
    obtain ⟨G, hG, rfl⟩ := Option.map_eq_some_iff.mp hz
    refine ⟨node.face, k, j, G, face?_of_get? hnode, hk, htable, hG, ?_⟩
    cases hfun : x.isFunction with
    | false => exact .inr hfun
    | true => exact .inl (Item.minimal_eq_of_identity hid hfun hsome).symm
  rcases insert_cases hnode x with ⟨-, hmerged⟩ | ⟨hnot, -⟩
  · have hposition : (u.insert parent x).2 = parent ++ [j] := by
      obtain ⟨F, k', i, hF, hk', hi, hposition⟩ := hmerged.registered
      obtain rfl := Option.some.inj ((face?_of_get? hnode).symm.trans hF)
      obtain rfl := Option.some.inj (hk.symm.trans hk')
      obtain rfl := Option.some.inj (htable.symm.trans hi)
      exact hposition
    refine ⟨hposition, ?_⟩
    have hstep := h.merged hmerged (key_insert u parent x)
    rwa [hposition] at hstep
  · exact absurd hreceives hnot

/-! ### Trees by their faces -/

/-- A tree in which every child is registered is given by its faces. -/
theorem eq_of_face? {t u : Tree} (hkey : t.key = u.key) (hface : ∀ q, t.face? q = u.face? q)
    (hregistered : ∀ p F i, t.face? p = some F → i < F.size → ∃ k, F.table k = some i) : t = u := by
  have hroot : t.face = u.face := Option.some.inj (hface [])
  have hitem : t.item = u.item := congrArg Face.item hroot
  have hlength : t.children.length = u.children.length := congrArg Face.size hroot
  have htable : t.childIndex? = u.childIndex? := congrArg Face.table hroot
  have hchildren : t.children = u.children := by
    refine List.ext_getElem hlength fun i hi hi' => ?_
    have hc := List.getElem?_eq_getElem hi
    have hd := List.getElem?_eq_getElem hi'
    refine eq_of_face? ?_ (fun q => ?_) fun p F j hF hj => ?_
    · -- both stand under the key that leads to them
      obtain ⟨k, hk⟩ := hregistered [] t.face i rfl hi
      obtain ⟨c, hc', hck⟩ := exists_child_of_table hk
      obtain ⟨d, hd', hdk⟩ := exists_child_of_table (htable ▸ hk : u.childIndex? k = some i)
      rw [Option.some.inj (hc.symm.trans hc'), Option.some.inj (hd.symm.trans hd'), hck, hdk]
    · have hq := hface (i :: q)
      rwa [face?_cons, face?_cons, hc, hd] at hq
    · exact hregistered (i :: p) F j (by rw [face?_cons, hc]; exact hF) hj
  obtain ⟨_, _, _⟩ := t
  obtain ⟨_, _, _⟩ := u
  simp_all
termination_by t
decreasing_by
  have := List.sizeOf_lt_of_mem (List.getElem_mem hi)
  obtain ⟨_, _, _⟩ := t
  simp at *
  omega

theorem Keyed.exists_table {F : Face} (h : t.Keyed) (hF : t.face? p = some F) (hi : i < F.size) :
    ∃ k, F.table k = some i := by
  obtain ⟨node, hnode, rfl⟩ := exists_get?_of_face? hF
  have hitem : t.item? (p ++ [i]) = some (node.children[i]).item := by
    rw [item?_concat hnode, List.getElem?_eq_getElem hi]
    rfl
  obtain ⟨k, hk⟩ := Option.isSome_iff_exists.mp (h.isSome p i _ hitem)
  exact ⟨k, (h.table p _ k i hF).mpr ⟨_, hitem, hk⟩⟩

end Tree

/-! ### Runs -/

namespace Source

open DocTree.Tree

variable {t t' u T T' : Tree} {σ : Position → Position} {cursor : Cursor} {items : List Item}
  {L M N All : Landings} {files : List SourceFile} {Ls : List Landings} {p parent : Position}
  {item x : Item} {placed : Placement}

/-- The landings, moved. -/
def moved (σ : Position → Position) (L : Landings) : Landings :=
  L.map fun landing => (σ landing.1, landing.2)

theorem landedAt_moved (h : ∀ landing ∈ L, σ landing.1 = σ p → landing.1 = p) :
    landedAt (moved σ L) (σ p) = landedAt L p := by
  have hsame : ∀ landing ∈ L, decide (σ landing.1 = σ p) = decide (landing.1 = p) := by
    intro landing hmem
    exact decide_eq_decide.mpr ⟨h landing hmem, congrArg σ⟩
  rw [landedAt, landedAt, moved, List.filter_map, List.map_map]
  exact congrArg (List.map Prod.snd) (List.filter_congr hsame)

theorem known_moved (hT : T.Recognizes L) (hclear : Unambiguous L) (hmove : Relocates σ T T') :
    T'.Known (moved σ L) := by
  intro landing hmem
  obtain ⟨first, hfirst, rfl⟩ := List.mem_map.mp hmem
  obtain ⟨y, hy, hid⟩ := hT.identity _ hfirst
  exact ⟨⟨y, hmove.item _ _ hy, hid⟩, hclear.isSome first hfirst⟩

/-- The tree of a replay mirrors that of the first run, step by step. -/
theorem mirrors_replayed (hM : t.Recognizes M) (hT : T.Recognizes All) (hclear : Unambiguous All)
    (hsub : ∀ l ∈ M, l ∈ All) (hmove : Relocates σ T T') (hT' : T'.Keyed)
    (hu : T'.Replayed N u) (hN : T'.Known N) : Mirrors σ t u where
  nil := hmove.nil
  concat := hmove.concat
  item := by
    intro q y hy
    obtain ⟨y', hy', hid⟩ := hM.exists_item? hT hsub hy
    obtain ⟨z, hz, hzid⟩ := hu.exists_item? hN (hmove.item q y' hy')
    exact ⟨z, hz, hzid.trans hid⟩
  keyed := hM.keyed (hclear.anti hsub)
  keyed' := hu.keyed hN hT'

/-- The cursor stays at scopes, as functions do not become the cursor. -/
theorem scopeCursor_place (hM : t.Recognizes M)
    (hM' : placed.tree.Recognizes (M ++ [(placed.position, x)])) (hcursor : t.ScopeCursor cursor)
    (hdest : t.destination cursor item = .ok (parent, x)) (hparent : t.Scoped parent)
    (hplace : t.place cursor item = .ok placed)
    (hadopt : item.isFunction = true → Directive.asksToAdopt item.directives = false) :
    placed.tree.ScopeCursor placed.cursor := by
  have hkeep : ∀ {p}, t.Scoped p → placed.tree.Scoped p := by
    intro p hp q hq
    obtain ⟨y, hy, hfun⟩ := hp q hq
    obtain ⟨z, hz, hid⟩ := hM.exists_item? hM' (fun l hl => List.mem_append_left _ hl) hy
    exact ⟨z, hz, (congrArg Prod.fst hid).trans hfun⟩
  obtain ⟨node, hnode, -, hposition, hnext⟩ := hcursor.hasCursor.insert_of_place hdest hplace
  intro p hp
  rw [hnext] at hp
  split at hp
  · rename_i hasks
    obtain rfl := Option.some.inj hp
    obtain ⟨i, hi⟩ := insert_position hnode x
    obtain ⟨n, d, m, a, hx⟩ := exists_eq_of_destination hdest
    have hfun : x.isFunction = false := by
      have hsort : x.isFunction = item.isFunction := by rw [hx]; rfl
      rw [hsort, Bool.eq_false_iff]
      intro hitem
      rw [hadopt hitem] at hasks
      exact absurd hasks (by simp)
    obtain ⟨y, hy, hid⟩ := hM'.identity (placed.position, x) (by simp)
    rw [hposition, hi] at hy ⊢
    exact (hkeep hparent).concat hy ((congrArg Prod.fst hid).trans hfun)
  · exact hkeep (hcursor p hp)

/-- A run over items is repeated: every item lands where it has landed. -/
theorem Steps.replay (h : Steps t cursor items L t') (hT : T.Recognizes All)
    (hclear : Unambiguous All) (hmove : Relocates σ T T') (hT' : T'.Keyed)
    (hadopt : ∀ item ∈ items,
      item.isFunction = true → Directive.asksToAdopt item.directives = false)
    (hcursor : t.ScopeCursor cursor) (hM : t.Recognizes M) (hsub : ∀ l ∈ M ++ L, l ∈ All)
    (hu : T'.Replayed N u) (hN : T'.Known N) :
    ∃ u', Steps u (cursor.map σ) items (moved σ L) u' ∧ T'.Replayed (N ++ moved σ L) u' := by
  induction h generalizing M N u with
  | done t cursor => exact ⟨u, .done _ _, by simpa [moved] using hu⟩
  | @step t t' cursor item x rest parent placed L hdest hplace h ih =>
    -- the tree of the first run before this item is mirrored, so the item goes to the same parent
    rw [List.append_cons] at hsub
    have hM' := hM.place hcursor.hasCursor hdest hplace
      (hclear.anti fun l hl => hsub l (List.mem_append_left _ hl))
    have hmirror :=
      mirrors_replayed hM hT hclear (fun l hl => hsub l (by simp [hl])) hmove hT' hu hN
    obtain ⟨hdest', hparent⟩ := hmirror.destination hcursor hdest
    obtain ⟨node, hnode, -, hposition, hnext⟩ := hcursor.hasCursor.insert_of_place hdest hplace
    -- in the replay, the item lands at the position to which its node was moved
    obtain ⟨i, hi⟩ := insert_position hnode x
    obtain ⟨j, hj⟩ := hmove.concat parent i
    have hland : σ placed.position = σ parent ++ [j] := by rw [hposition, hi, hj]
    have hN' : T'.Known (N ++ [(σ placed.position, x)]) := by
      intro l hl
      rcases List.mem_append.mp hl with hl | hl
      · exact hN l hl
      · obtain rfl := List.mem_singleton.mp hl
        refine known_moved hT hclear hmove _ (List.mem_map.mpr ⟨(placed.position, x), ?_, rfl⟩)
        exact hsub _ (by simp)
    have hinsert := hu.insert hT' (hland ▸ hN')
    rw [← hland] at hinsert
    have hplace' := place_moved hdest' hinsert.1 hnext
    have hcursor' := scopeCursor_place hM hM' hcursor hdest hparent hplace (hadopt item (by simp))
    obtain ⟨u', hsteps, hreplayed⟩ := ih (fun item hitem => hadopt item (by simp [hitem])) hcursor'
      hM' hsub hinsert.2 hN'
    refine ⟨u', .step hdest' hplace' hsteps, ?_⟩
    rw [List.append_assoc] at hreplayed
    exact hreplayed

/-- A run over files is repeated. -/
theorem Reads.replay (h : Reads t files Ls t') (hT : T.Recognizes All)
    (hclear : Unambiguous All) (hmove : Relocates σ T T') (hT' : T'.Keyed)
    (hadopt : ∀ item ∈ collected files,
      item.isFunction = true → Directive.asksToAdopt item.directives = false)
    (hM : t.Recognizes M) (hsub : ∀ l ∈ M ++ Ls.flatten, l ∈ All)
    (hu : T'.Replayed N u) (hN : T'.Known N) :
    ∃ u', Reads u files (Ls.map (moved σ)) u' ∧ T'.Replayed (N ++ moved σ Ls.flatten) u' := by
  induction h generalizing M N u with
  | done t => exact ⟨u, .done _, by simpa [moved] using hu⟩
  | @file t t₁ t' file lines rest L Ls hsteps h ih =>
    rw [List.flatten_cons, ← List.append_assoc] at hsub
    have hroot : t.ScopeCursor none := fun p hp => by simp at hp
    obtain ⟨u₁, hsteps', hu₁⟩ := hsteps.replay hT hclear hmove hT'
      (fun item hitem => hadopt item (by rw [collected_cons]; exact List.mem_append_left _ hitem))
      hroot hM (fun l hl => hsub l (List.mem_append_left _ hl)) hu hN
    have hM₁ := hsteps.recognizes hroot.hasCursor hM
      (hclear.anti fun l hl => hsub l (List.mem_append_left _ hl))
    have hN₁ : T'.Known (N ++ moved σ L) := by
      intro l hl
      rcases List.mem_append.mp hl with hl | hl
      · exact hN l hl
      · obtain ⟨first, hfirst, rfl⟩ := List.mem_map.mp hl
        exact known_moved hT hclear hmove _
          (List.mem_map.mpr ⟨first, hsub first (by simp [hfirst]), rfl⟩)
    obtain ⟨u', hreads, hu'⟩ := ih
      (fun item hitem => hadopt item (by rw [collected_cons]; exact List.mem_append_right _ hitem))
      hM₁ hsub hu₁ hN₁
    refine ⟨u', .file hsteps' hreads, ?_⟩
    rw [List.flatten_cons]
    simpa [moved] using hu'

/-- **A replay changes nothing.**  Reading files once more, into the tree that they have given or
into a copy of it with the nodes elsewhere, succeeds and leaves it as it is. -/
theorem Reads.replay_eq (h : Reads .empty files Ls T) (hclear : Unambiguous Ls.flatten)
    (hadopt : ∀ item ∈ collected files,
      item.isFunction = true → Directive.asksToAdopt item.directives = false)
    (hmove : Relocates σ T T') (hT' : T'.Keyed) : Reads T' files (Ls.map (moved σ)) T' := by
  have hT : T.Recognizes Ls.flatten := by simpa using h.recognizes .empty (by simpa using hclear)
  obtain ⟨u, hreads, hu⟩ := h.replay hT hclear hmove hT' hadopt .empty (by simp) (.nil T')
    (by simp [Known])
  -- every node has been merged with all that had made it, which changes nothing
  have hface : ∀ q, T'.face? q = u.face? q := by
    intro q
    rw [hu.face]
    cases hF : T'.face? q with
    | none => rfl
    | some F =>
      obtain ⟨p, hp, rfl⟩ := hmove.onto q F.item (by rw [item?, hF]; rfl)
      have hlanded : landedAt ([] ++ moved σ Ls.flatten) (σ p) = landedAt Ls.flatten p := by
        refine landedAt_moved fun landing hmem hσ => ?_
        obtain ⟨y, hy, -⟩ := hT.identity landing hmem
        exact hmove.injective _ _ _ _ hy hp hσ
      have hagain : (landedAt Ls.flatten p).foldl Item.merge F.item = F.item := by
        by_cases hroot : p = []
        · have hnone : landedAt Ls.flatten p = [] := by
            refine List.eq_nil_iff_forall_not_mem.mpr fun x hx => ?_
            exact hT.tells.landed _ (mem_landedAt.mp hx) hroot
          rw [hnone, List.foldl_nil]
        · rw [hT.tells.below p hroot] at hp
          exact Item.foldl_merge_of_mergeAll hp
      rw [hlanded, Option.map_some, hagain]
  obtain rfl : T' = u := eq_of_face? hu.key.symm hface fun p F i => hT'.exists_table
  exact hreads

end Source

end DocTree
