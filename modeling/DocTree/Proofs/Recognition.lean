/-
Recognition.

A scope recognizes an item by its identity: whether it is a function, and its key.  In a run in
which every item has a key and no scope has a clash,

* `Item.foldl_merge_of_mergeAll` — merging the items that have made a node once more changes
  nothing;
* `Tree.Recognizes` — every node has the identity of each item that has landed there;
* `Tree.Keyed` — and every scope finds its children under the keys of their own items.

The step is `Tree.Recognizes.insert`, the runs are `Source.Steps.recognizes` and
`Source.Reads.recognizes`.
-/
import DocTree.Proofs.History
import DocTree.Proofs.Session

namespace DocTree

/-! ### Merging once more -/

namespace Item

variable {x y z : Item} {xs : List Item}

/-- How much a text says, where a missing one says the least. -/
def extent : Option Text → Nat
  | none => 0
  | some t => t.length + 1

theorem longer?_eq_ite (a b : Option Text) :
    longer? a b = if extent a < extent b then b else a := by
  cases a with
  | none => cases b <;> simp [longer?, extent]
  | some a =>
    cases b with
    | none => simp [longer?, extent]
    | some b =>
      simp only [longer?, longer, extent, Nat.add_lt_add_iff_right]
      split <;> rfl

theorem extent_longer? (a b : Option Text) : extent (longer? a b) = max (extent a) (extent b) := by
  rw [longer?_eq_ite]
  split <;> omega

/-- The texts of an item. -/
inductive TextField where
  | name
  | qualifiedName
  | raw
  | plain
  | summary
  | directives
  | declaration
  | display
  | minimal
  | templateParameters

def text (x : Item) : TextField → Option Text
  | .name => x.name
  | .qualifiedName => x.qualifiedName
  | .raw => x.raw
  | .plain => x.plain
  | .summary => x.summary
  | .directives => some x.directives
  | .declaration => x.declaration
  | .display => x.display
  | .minimal => x.minimal
  | .templateParameters => x.templateParameters

theorem text_merge (old new : Item) (f : TextField) :
    (old.merge new).text f = longer? (old.text f) (new.text f) := by
  cases f <;> rfl

/-- An item is its texts, its kind, its locations and whether it stands on its own. -/
theorem eq_of_text (htext : ∀ f, x.text f = y.text f) (hkind : x.kind = y.kind)
    (hlocations : x.locations = y.locations) (hasIs : x.asIs = y.asIs) : x = y := by
  obtain ⟨⟩ := x
  obtain ⟨⟩ := y
  simp only [mk.injEq]
  exact ⟨htext .name, htext .qualifiedName, hkind, htext .raw, htext .plain, htext .summary,
    Option.some.inj (htext .directives), htext .declaration, htext .display, htext .minimal,
    htext .templateParameters, hlocations, hasIs⟩

theorem mem_addLocations {old new : List Location} {l : Location} :
    l ∈ addLocations old new ↔ l ∈ old ∨ l ∈ new := by
  unfold addLocations
  induction new generalizing old with
  | nil => simp
  | cons m rest ih =>
    rw [List.foldl_cons, ih]
    split
    · have hm : m ∈ old := by simpa using ‹old.contains m = true›
      constructor
      · rintro (hl | hl)
        · exact .inl hl
        · exact .inr (List.mem_cons_of_mem _ hl)
      · rintro (hl | hl)
        · exact .inl hl
        · rcases List.mem_cons.mp hl with rfl | hl
          · exact .inl hm
          · exact .inr hl
    · simp [or_assoc]

/-- Merging `x` into `y` adds no text and no location. -/
structure Absorbs (y x : Item) : Prop where
  text : ∀ f, extent (x.text f) ≤ extent (y.text f)
  locations : ∀ l ∈ x.locations, l ∈ y.locations

theorem Absorbs.refl (x : Item) : x.Absorbs x := ⟨fun _ => Nat.le_refl _, fun _ h => h⟩

theorem absorbs_merge (y x : Item) : (y.merge x).Absorbs x where
  text := fun f => by
    rw [text_merge, extent_longer?]
    exact Nat.le_max_right _ _
  locations := fun _ hl => mem_addLocations.mpr (.inr hl)

theorem Absorbs.merge (h : y.Absorbs x) (z : Item) : (y.merge z).Absorbs x where
  text := fun f => by
    rw [text_merge, extent_longer?]
    exact Nat.le_trans (h.text f) (Nat.le_max_left _ _)
  locations := fun l hl => mem_addLocations.mpr (.inl (h.locations l hl))

theorem Absorbs.foldl_merge (h : y.Absorbs x) (xs : List Item) :
    (xs.foldl Item.merge y).Absorbs x := by
  induction xs generalizing y with
  | nil => exact h
  | cons z xs ih => exact ih (h.merge z)

/-- What has been merged is absorbed. -/
theorem absorbs_of_mergeAll (h : mergeAll xs = some y) (hx : x ∈ xs) : y.Absorbs x := by
  have hfold : ∀ {xs : List Item} {y : Item}, x ∈ xs → (xs.foldl Item.merge y).Absorbs x := by
    intro xs
    induction xs with
    | nil => simp
    | cons z xs ih =>
      intro y hx
      rcases List.mem_cons.mp hx with rfl | hx
      · exact (absorbs_merge y x).foldl_merge xs
      · exact ih hx
  cases xs with
  | nil => simp at hx
  | cons z xs =>
    obtain rfl := Option.some.inj h
    rcases List.mem_cons.mp hx with rfl | hx
    · exact (Absorbs.refl x).foldl_merge xs
    · exact hfold hx

/-- Merging what is absorbed changes the kind and whether the item stands on its own, at most. -/
theorem Absorbs.merge_eq (h : y.Absorbs x) :
    y.merge x = { y with kind := x.kind, asIs := x.asIs } := by
  refine eq_of_text (fun f => ?_) rfl (addLocations_of_subset h.locations) rfl
  rw [text_merge, longer?_eq_ite, if_neg (Nat.not_lt.mpr (h.text f))]
  cases f <;> rfl

theorem exists_foldl_merge_eq (h : ∀ x ∈ xs, y.Absorbs x) :
    ∃ kind asIs, xs.foldl Item.merge y = { y with kind := kind, asIs := asIs } := by
  induction xs generalizing y with
  | nil => exact ⟨y.kind, y.asIs, rfl⟩
  | cons x xs ih =>
    have habsorbs : ∀ z ∈ xs, (y.merge x).Absorbs z := fun z hz =>
      (h z (List.mem_cons_of_mem _ hz)).merge x
    obtain ⟨kind, asIs, hfold⟩ := ih habsorbs
    refine ⟨kind, asIs, ?_⟩
    rw [List.foldl_cons, hfold, (h x (List.mem_cons_self ..)).merge_eq]

/-- Merging the same items in the same order once more changes nothing: the last one decides on
the kind again. -/
theorem foldl_merge_of_mergeAll (h : mergeAll xs = some y) : xs.foldl Item.merge y = y := by
  have habsorbs : ∀ x ∈ xs, y.Absorbs x := fun x => absorbs_of_mergeAll h
  rcases List.eq_nil_or_concat xs with rfl | ⟨init, last, rfl⟩
  · rfl
  · rw [List.concat_eq_append] at h habsorbs ⊢
    obtain ⟨kind, asIs, hfold⟩ :=
      exists_foldl_merge_eq fun x hx => habsorbs x (List.mem_append_left _ hx)
    have hlast : ({ y with kind := kind, asIs := asIs } : Item).Absorbs last := by
      have hself := habsorbs last (by simp)
      refine ⟨fun f => ?_, hself.locations⟩
      cases f <;> exact hself.text _
    rw [List.foldl_append, hfold, List.foldl_cons, List.foldl_nil, hlast.merge_eq]
    -- the item was last merged with `last`, or is `last` itself
    rw [mergeAll_concat] at h
    obtain rfl := Option.some.inj h
    cases mergeAll init <;> rfl

/-! ### Identities -/

/-- What a scope recognizes an item by. -/
def identity (x : Item) : Bool × Option Text := (x.isFunction, Tree.registeredKey x)

theorem identity_merge (h : x.identity = y.identity) (hkey : (Tree.registeredKey x).isSome) :
    (y.merge x).identity = y.identity := by
  obtain ⟨hfun, hkeys⟩ := Prod.mk.inj h
  obtain ⟨k, hk⟩ := Option.isSome_iff_exists.mp hkey
  have hmerge := registeredKey_merge (hkeys.symm.trans hk) hk hfun
  exact Prod.ext hfun (hmerge.trans (hk.symm.trans hkeys))

theorem identity_foldl_merge
    (h : ∀ x ∈ xs, x.identity = y.identity ∧ (Tree.registeredKey x).isSome) :
    (xs.foldl Item.merge y).identity = y.identity := by
  induction xs generalizing y with
  | nil => rfl
  | cons x xs ih =>
    obtain ⟨hx, hkey⟩ := h x (List.mem_cons_self ..)
    have hstep := identity_merge hx hkey
    rw [List.foldl_cons, ih, hstep]
    intro z hz
    rw [hstep]
    exact h z (List.mem_cons_of_mem _ hz)

/-- Items other than functions that have one identity have one name. -/
theorem name_eq_of_identity (h : x.identity = y.identity) (hfun : x.isFunction = false)
    (hkey : (Tree.registeredKey x).isSome) : x.name = y.name := by
  obtain ⟨hfuns, hkeys⟩ := Prod.mk.inj h
  obtain ⟨k, hk⟩ := Option.isSome_iff_exists.mp hkey
  rw [Tree.name_of_registeredKey hk hfun,
    Tree.name_of_registeredKey (hkeys.symm.trans hk) (hfuns.symm.trans hfun)]

/-- Functions that have one identity have one minimal form. -/
theorem minimal_eq_of_identity (h : x.identity = y.identity) (hfun : x.isFunction = true)
    (hkey : (Tree.registeredKey x).isSome) : x.minimal = y.minimal := by
  obtain ⟨hfuns, hkeys⟩ := Prod.mk.inj h
  obtain ⟨k, hk⟩ := Option.isSome_iff_exists.mp hkey
  rw [Tree.minimal_of_registeredKey hk hfun,
    Tree.minimal_of_registeredKey (hkeys.symm.trans hk) (hfuns.symm.trans hfun)]

end Item

/-! ### Landings without doubt -/

/-- The landings as arrivals in scopes. -/
def arrivals (L : Landings) : Arrivals := L.map fun landing => (landing.1.dropLast, landing.2)

/-- Everything that has landed has a key, and no scope has a clash. -/
structure Unambiguous (L : Landings) : Prop where
  isSome : ∀ landing ∈ L, (Tree.registeredKey landing.2).isSome
  clashFree : ∀ p, ClashFreeAt (arrivals L) p

theorem Unambiguous.anti {L M : Landings} (h : Unambiguous M) (hsub : ∀ l ∈ L, l ∈ M) :
    Unambiguous L where
  isSome := fun l hl => h.isSome l (hsub l hl)
  clashFree := fun p => (h.clashFree p).anti fun x hx => by
    obtain ⟨l, hl, heq⟩ := List.mem_map.mp hx
    exact List.mem_map.mpr ⟨l, hsub l hl, heq⟩

/-! ### Trees that find their children by identity -/

namespace Tree

variable {t t' node : Tree} {x y : Item} {p q parent : Position} {L M : Landings}

/-- Every node below the root has a key, and its parent has it under that key and no other. -/
structure Keyed (t : Tree) : Prop where
  root : ∃ y, t.item? [] = some y ∧ y.isFunction = false
  isSome : ∀ p i y, t.item? (p ++ [i]) = some y → (registeredKey y).isSome
  table : ∀ p F k i, t.face? p = some F →
    (F.table k = some i ↔ ∃ y, t.item? (p ++ [i]) = some y ∧ registeredKey y = some k)

theorem item?_concat {i : Nat} (h : t.get? p = some node) :
    t.item? (p ++ [i]) = node.children[i]?.map Tree.item := by
  rw [item?, face?_concat h, Option.map_map]
  rfl

/-- The parent of a node is a node. -/
theorem exists_get?_of_concat {i : Nat} (h : t.item? (p ++ [i]) = some y) :
    ∃ node, t.get? p = some node := by
  obtain ⟨c, hc, -⟩ := exists_get?_of_item? h
  rw [get?_append] at hc
  obtain ⟨node, hnode, -⟩ := Option.bind_eq_some_iff.mp hc
  exact ⟨node, hnode⟩

/-- Where a key is held by one child at a time, it leads to the child that holds it. -/
theorem childIndex?_eq_some_iff_key {k : Text} {i : Nat} (h : KeysDistinct node.entries) :
    node.childIndex? k = some i ↔ ∃ c, node.children[i]? = some c ∧ c.key = some k := by
  refine ⟨exists_child_of_table, ?_⟩
  rintro ⟨c, hc, hkey⟩
  refine childIndex?_eq_some.mpr ⟨c, child?_eq_some.mpr ⟨hc, hkey, fun j hj d hd hdkey => ?_⟩⟩
  have hsame := h (getElem?_entries_of_child hd) (getElem?_entries_of_child hc) hdkey hkey
  omega

/-- Children that are registered under the keys of their own items are found there. -/
theorem childIndex?_eq_some_iff {placed : Arrivals} {k : Text} {i : Nat}
    (h : Registered placed p node.entries) :
    node.childIndex? k = some i ↔
      ∃ c, node.children[i]? = some c ∧ registeredKey c.item = some k := by
  rw [childIndex?_eq_some_iff_key h.keys]
  refine exists_congr fun c => and_congr_right fun hc => ?_
  have hown : c.key = registeredKey c.item :=
    h.key_eq c.entry (List.mem_of_getElem? (getElem?_entries_of_child hc))
  rw [hown]

theorem keyed_of_registered (hroot : ∃ y, t.item? [] = some y ∧ y.isFunction = false)
    (hsome : ∀ p i y, t.item? (p ++ [i]) = some y → (registeredKey y).isSome)
    (hreg : ∀ q node, t.get? q = some node → ∃ placed p, Registered placed p node.entries) :
    t.Keyed where
  root := hroot
  isSome := hsome
  table := by
    intro p F k i hF
    obtain ⟨node, hnode, rfl⟩ := exists_get?_of_face? hF
    obtain ⟨placed, p', hplaced⟩ := hreg p node hnode
    rw [item?_concat hnode]
    refine (childIndex?_eq_some_iff hplaced).trans ?_
    cases node.children[i]? <;> simp

/-! ### What has landed is recognized -/

/-- The landings tell the tree, its scopes have their children registered, and every node has the
identity of whatever has landed there. -/
structure Recognizes (t : Tree) (L : Landings) : Prop where
  tells : Tells L t
  registered : WellRegistered t (arrivals L)
  identity : ∀ landing ∈ L, ∃ y, t.item? landing.1 = some y ∧ y.identity = landing.2.identity

theorem Recognizes.empty : Tree.empty.Recognizes [] where
  tells := .empty
  registered := by
    have hnil : Tree.empty.Everywhere fun es => es = [] := everywhere_empty rfl
    intro q node hq _
    rw [hnil q node hq]
    exact .nil
  identity := by simp

/-- Below the root, something has landed on every node. -/
theorem Recognizes.exists_landing (h : t.Recognizes L) (hq : q ≠ []) (hy : t.item? q = some y) :
    ∃ x, (q, x) ∈ L ∧ y.identity = x.identity := by
  have hsome : landedAt L q ≠ [] := by
    rw [ne_eq, ← Item.mergeAll_eq_none, ← h.tells.below q hq, hy]
    simp
  obtain ⟨x, hx⟩ := List.exists_mem_of_ne_nil _ hsome
  have hL := mem_landedAt.mp hx
  obtain ⟨y', hy', hid⟩ := h.identity _ hL
  obtain rfl := Option.some.inj (hy.symm.trans hy')
  exact ⟨x, hL, hid⟩

/-- Nodes keep their identity. -/
theorem Recognizes.exists_item? (h : t.Recognizes L) (h' : t'.Recognizes M)
    (hsub : ∀ l ∈ L, l ∈ M) (hy : t.item? q = some y) :
    ∃ z, t'.item? q = some z ∧ z.identity = y.identity := by
  by_cases hq : q = []
  · rw [hq, h.tells.root] at hy
    obtain rfl := Option.some.inj hy
    exact ⟨{}, by rw [hq]; exact h'.tells.root, rfl⟩
  · obtain ⟨x, hx, hid⟩ := h.exists_landing hq hy
    obtain ⟨z, hz, hzid⟩ := h'.identity _ (hsub _ hx)
    exact ⟨z, hz, hzid.trans hid.symm⟩

/-- An item lands on a node of its identity. -/
theorem identity_eq_of_insert {placed placed' : Arrivals}
    (h : Registered placed parent node.entries) (hclash : ClashFreeAt placed' parent)
    (hsub : ∀ y, (parent, y) ∈ placed → (parent, y) ∈ placed') (hx : (parent, x) ∈ placed')
    (hnode : t.get? parent = some node) (hy : t.item? (t.insert parent x).2 = some y) :
    x.identity = y.identity := by
  rcases insert_cases hnode x with ⟨-, hmerged⟩ | ⟨-, happended⟩
  · obtain ⟨F, k, i, hF, hk, hi, hposition⟩ := hmerged.registered
    obtain rfl := Option.some.inj ((face?_of_get? hnode).symm.trans hF)
    obtain ⟨c, hc, hkey⟩ := (childIndex?_eq_some_iff h).mp hi
    rw [hposition, item?_concat hnode, hc] at hy
    obtain rfl := Option.some.inj hy
    have hmem := List.mem_of_getElem? (getElem?_entries_of_child hc)
    obtain ⟨z, hz, hzfun, hzk⟩ := h.placed _ hmem k ((h.key_eq _ hmem).trans hkey)
    have hfun := hclash.isFunction_eq hx (hsub z hz) hk hzk
    exact Prod.ext (hfun.trans hzfun) (hk.trans hkey.symm)
  · rw [item?, happended.fresh] at hy
    exact absurd hy (by simp)

/-- The step: a landing that leaves no doubt is recognized, as are those before it. -/
theorem Recognizes.insert (h : t.Recognizes L) (hnode : t.get? parent = some node) (x : Item)
    (hclear : Unambiguous (L ++ [((t.insert parent x).2, x)])) :
    (t.insert parent x).1.Recognizes (L ++ [((t.insert parent x).2, x)]) := by
  obtain ⟨i, hi⟩ := insert_position hnode x
  set position := (t.insert parent x).2 with hposition
  have harrivals : arrivals (L ++ [(position, x)]) = arrivals L ++ [(parent, x)] := by
    simp [arrivals, hi]
  have hkey : (registeredKey x).isSome := hclear.isSome (position, x) (by simp)
  have hsub : ∀ y, (parent, y) ∈ arrivals L → (parent, y) ∈ arrivals (L ++ [(position, x)]) := by
    intro y hy
    rw [harrivals]
    exact List.mem_append_left _ hy
  have hclash := hclear.clashFree parent
  -- a node that is already there was registered under the key of an item of the same sort
  have hland : ∀ y, t.item? position = some y → x.identity = y.identity := by
    intro y hy
    have hreg := h.registered parent node hnode (hclash.anti hsub)
    exact identity_eq_of_insert hreg hclash hsub (by rw [harrivals]; simp) hnode hy
  refine ⟨h.tells.insert hnode x, harrivals ▸ h.registered.insert parent x, ?_⟩
  intro landing hmem
  rw [item?_insert hnode, ← hposition]
  rcases List.mem_append.mp hmem with hmem | hmem
  · obtain ⟨y, hy, hid⟩ := h.identity landing hmem
    -- only the node at the new position may have changed, and merging keeps its identity
    by_cases heq : landing.1 = position
    · rw [if_pos heq, hy]
      exact ⟨_, rfl, (Item.identity_merge (hland y (heq ▸ hy)) hkey).trans hid⟩
    · exact ⟨y, by rw [if_neg heq, hy], hid⟩
  · obtain rfl := List.mem_singleton.mp hmem
    rw [if_pos rfl]
    cases hy : t.item? position with
    | none => exact ⟨x, rfl, rfl⟩
    | some y =>
      have hid := hland y hy
      exact ⟨_, rfl, (Item.identity_merge hid hkey).trans hid.symm⟩

theorem Recognizes.place {cursor : Cursor} {item : Item} {placed : Placement} (h : t.Recognizes L)
    (hcursor : t.HasCursor cursor) (hdest : t.destination cursor item = .ok (parent, x))
    (hplace : t.place cursor item = .ok placed)
    (hclear : Unambiguous (L ++ [(placed.position, x)])) :
    placed.tree.Recognizes (L ++ [(placed.position, x)]) := by
  obtain ⟨node, hnode, htree, hposition, -⟩ := hcursor.insert_of_place hdest hplace
  rw [hposition] at hclear ⊢
  rw [htree]
  exact h.insert hnode x hclear

/-- A tree that recognizes what has landed finds it under its key. -/
theorem Recognizes.keyed (h : t.Recognizes L) (hclear : Unambiguous L) : t.Keyed := by
  refine keyed_of_registered ⟨{}, h.tells.root, rfl⟩ (fun p i y hy => ?_) fun q node hnode => ?_
  · obtain ⟨x, hx, hid⟩ := h.exists_landing (by simp) hy
    have hkey : registeredKey y = registeredKey x := congrArg Prod.snd hid
    rw [hkey]
    exact hclear.isSome _ hx
  · exact ⟨_, q, h.registered q node hnode (hclear.clashFree q)⟩

end Tree

/-! ### Runs -/

namespace Source

variable {t t' : Tree} {cursor : Cursor} {items : List Item} {L M : Landings}
  {files : List SourceFile} {Ls : List Landings}

/-- A run over items recognizes them. -/
theorem Steps.recognizes (h : Steps t cursor items L t') (hcursor : t.HasCursor cursor)
    (hM : t.Recognizes M) (hclear : Unambiguous (M ++ L)) : t'.Recognizes (M ++ L) := by
  induction h generalizing M with
  | done t cursor => simpa using hM
  | @step t t' cursor item x rest parent placed L hdest hplace h ih =>
    rw [List.append_cons] at hclear ⊢
    have hfirst : Unambiguous (M ++ [(placed.position, x)]) :=
      hclear.anti fun l hl => List.mem_append_left _ hl
    exact ih (hcursor.place hplace) (hM.place hcursor hdest hplace hfirst) hclear

/-- A run over files recognizes what it reads. -/
theorem Reads.recognizes (h : Reads t files Ls t') (hM : t.Recognizes M)
    (hclear : Unambiguous (M ++ Ls.flatten)) : t'.Recognizes (M ++ Ls.flatten) := by
  induction h generalizing M with
  | done t => simpa using hM
  | @file t t₁ t' file lines rest L Ls hsteps h ih =>
    rw [List.flatten_cons, ← List.append_assoc] at hclear ⊢
    have hfirst : Unambiguous (M ++ L) := hclear.anti fun l hl => List.mem_append_left _ hl
    exact ih (hsteps.recognizes (fun p hp => by simp at hp) hM hfirst) hclear

end Source

end DocTree
