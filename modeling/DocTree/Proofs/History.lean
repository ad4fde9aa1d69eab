/-
Histories of nodes.

Every placement lands on a node: a new one, or one that an earlier item has made.  The
landings of a run, in order, are its history, and they account for the whole tree:

* `Source.Steps`, `Source.Reads` — runs over the items of a file, and over files, with their
  landings;
* `Tells` — there is a node at a position exactly when something has landed there, and its item
  is what landed there, merged in order;
* `Source.Steps.tells`, `Source.Reads.tells` — the landings of a run tell its tree.
-/
import DocTree.Proofs.Locality
import Mathlib.Data.List.Basic

namespace DocTree

/-- What has landed where: the position of the node, and the item as it appeared there. -/
abbrev Landings := List (Position × Item)

/-- A source file: how it is shown, and its lines. -/
abbrev SourceFile := Text × List Text

/-! ### Items that land on one node -/

/-- The items that have landed at a position, in order. -/
def landedAt (L : Landings) (q : Position) : List Item :=
  (L.filter fun landing => landing.1 = q).map Prod.snd

theorem landedAt_append (L M : Landings) (q : Position) :
    landedAt (L ++ M) q = landedAt L q ++ landedAt M q := by
  simp [landedAt]

@[simp] theorem landedAt_singleton_self (q : Position) (x : Item) :
    landedAt [(q, x)] q = [x] := by
  simp [landedAt]

theorem landedAt_singleton_of_ne {p q : Position} (h : p ≠ q) (x : Item) :
    landedAt [(p, x)] q = [] := by
  simp [landedAt, h]

theorem mem_landedAt {L : Landings} {q : Position} {x : Item} :
    x ∈ landedAt L q ↔ (q, x) ∈ L := by
  simp [landedAt]

/-- Items merged in order, if there are any. -/
def Item.mergeAll : List Item → Option Item
  | [] => none
  | x :: xs => some (xs.foldl merge x)

theorem Item.mergeAll_concat (xs : List Item) (x : Item) :
    mergeAll (xs ++ [x]) = some (((mergeAll xs).map (merge · x)).getD x) := by
  cases xs <;> simp [mergeAll]

theorem Item.mergeAll_eq_none {xs : List Item} : mergeAll xs = none ↔ xs = [] := by
  cases xs <;> simp [mergeAll]

namespace Tree

variable {t t' node : Tree} {x item : Item} {cursor : Cursor} {L : Landings}
  {p q parent position : Position}

/-- The item of the node at a position. -/
def item? (t : Tree) (q : Position) : Option Item := (t.face? q).map Face.item

theorem item?_of_get? (h : t.get? q = some node) : t.item? q = some node.item := by
  rw [item?, face?_of_get? h]
  rfl

theorem exists_get?_of_item? (h : t.item? q = some x) :
    ∃ node, t.get? q = some node ∧ node.item = x := by
  obtain ⟨F, hF, rfl⟩ := Option.map_eq_some_iff.mp h
  obtain ⟨node, hnode, rfl⟩ := exists_get?_of_face? hF
  exact ⟨node, hnode, rfl⟩

/-- What an insertion does to items: one lands, merged with what is there, and the others
stay. -/
theorem item?_insert (h : t.get? parent = some node) (x : Item) (q : Position) :
    (t.insert parent x).1.item? q =
      if q = (t.insert parent x).2 then some (((t.item? q).map (·.merge x)).getD x)
      else t.item? q := by
  rcases insert_cases h x with ⟨-, hmerged⟩ | ⟨-, happended⟩
  · by_cases hq : q = (t.insert parent x).2
    · obtain ⟨F, hF, hF'⟩ := hmerged.node
      rw [if_pos hq, hq, item?, item?, hF, hF']
      rfl
    · rw [if_neg hq, item?, hmerged.frame q hq, item?]
  · by_cases hq : q = (t.insert parent x).2
    · rw [if_pos hq, hq, item?, item?, happended.node, happended.fresh]
      rfl
    · rw [if_neg hq, item?, item?]
      by_cases hparent : q = parent
      · -- the parent has one more child, and keeps its item
        obtain ⟨F, hF, -, hF'⟩ := happended.last
        rw [hparent, hF, hF']
        rfl
      · rw [happended.frame q hparent hq]

/-- At its destination an item may have another name, display and minimal form, and stand on its
own or not; all else is as it was. -/
theorem exists_eq_of_destination (h : t.destination cursor item = .ok (parent, x)) :
    ∃ n d m a, x = { item with name := n, display := d, minimal := m, asIs := a } := by
  obtain ⟨target, -, -, rfl⟩ := destination_eq_ok_iff.mp h
  unfold settle
  dsimp only
  split <;> split <;> exact ⟨_, _, _, _, rfl⟩

/-- An item lands below its parent. -/
theorem insert_position (h : t.get? parent = some node) (x : Item) :
    ∃ i, (t.insert parent x).2 = parent ++ [i] := by
  rw [insert, h]
  exact ⟨_, rfl⟩

/-- Nodes stay where they are. -/
theorem exists_get?_insert (h : t.get? parent = some node) (x : Item)
    (hq : ∃ n, t.get? q = some n) : ∃ n, (t.insert parent x).1.get? q = some n := by
  obtain ⟨n, hn⟩ := hq
  have hitem := item?_insert h x q
  rw [item?_of_get? hn] at hitem
  split at hitem <;>
  · obtain ⟨n', hn', -⟩ := exists_get?_of_item? hitem
    exact ⟨n', hn'⟩

/-- There is a node where an item has landed. -/
theorem exists_get?_insert_position (h : t.get? parent = some node) (x : Item) :
    ∃ n, (t.insert parent x).1.get? (t.insert parent x).2 = some n := by
  have hitem := item?_insert h x (t.insert parent x).2
  rw [if_pos rfl] at hitem
  obtain ⟨n, hn, -⟩ := exists_get?_of_item? hitem
  exact ⟨n, hn⟩

/-- The next cursor is at a node of the next tree. -/
theorem HasCursor.place {placed : Placement} (h : t.HasCursor cursor)
    (hplace : t.place cursor item = .ok placed) : placed.tree.HasCursor placed.cursor := by
  obtain ⟨parent, x, hdest, htree, hposition, hnext⟩ := place_eq_ok_iff.mp hplace
  obtain ⟨node, hnode⟩ := h.exists_get?_destination hdest
  intro p hp
  rw [htree]
  rw [hnext] at hp
  split at hp
  · obtain rfl := Option.some.inj hp
    rw [hposition]
    exact exists_get?_insert_position hnode x
  · exact exists_get?_insert hnode x (h p hp)

end Tree

/-! ### Landings that tell a tree -/

/-- The landings account for the tree: below the root there is a node exactly where something
has landed, and its item is what has landed there, merged in order. -/
structure Tells (L : Landings) (t : Tree) : Prop where
  root : t.item? [] = some {}
  below : ∀ q, q ≠ [] → t.item? q = Item.mergeAll (landedAt L q)
  landed : ∀ landing ∈ L, landing.1 ≠ []

theorem Tells.empty : Tells [] .empty where
  root := rfl
  below := by
    intro q hq
    cases q with
    | nil => exact absurd rfl hq
    | cons i q => rfl
  landed := by simp

/-- The step: a further landing tells the tree after it. -/
theorem Tells.insert {L : Landings} {t node : Tree} {parent : Position} (h : Tells L t)
    (hparent : t.get? parent = some node) (x : Item) :
    Tells (L ++ [((t.insert parent x).2, x)]) (t.insert parent x).1 where
  root := by
    obtain ⟨i, hi⟩ := t.insert_position hparent x
    rw [Tree.item?_insert hparent, if_neg (by simp [hi]), h.root]
  below := by
    intro q hq
    rw [Tree.item?_insert hparent, landedAt_append, h.below q hq]
    by_cases hland : q = (t.insert parent x).2
    · rw [if_pos hland, ← hland, landedAt_singleton_self, Item.mergeAll_concat]
    · rw [if_neg hland, landedAt_singleton_of_ne (Ne.symm hland), List.append_nil]
  landed := by
    obtain ⟨i, hi⟩ := t.insert_position hparent x
    intro landing hmem
    rcases List.mem_append.mp hmem with hmem | hmem
    · exact h.landed landing hmem
    · obtain rfl := List.mem_singleton.mp hmem
      simp [hi]

/-! ### Runs -/

namespace Source

variable {t t' : Tree} {cursor : Cursor} {items : List Item} {L : Landings}
  {file : Text} {lines : List Text} {files : List SourceFile} {Ls : List Landings}

/-- Placing the items one after the other, from the cursor, succeeds with these landings and
gives the second tree. -/
inductive Steps : Tree → Cursor → List Item → Landings → Tree → Prop
  | done (t : Tree) (cursor : Cursor) : Steps t cursor [] [] t
  | step {t t' : Tree} {cursor : Cursor} {item x : Item} {rest : List Item} {parent : Position}
      {placed : Placement} {L : Landings} (hdest : t.destination cursor item = .ok (parent, x))
      (hplace : t.place cursor item = .ok placed)
      (h : Steps placed.tree placed.cursor rest L t') :
      Steps t cursor (item :: rest) ((placed.position, x) :: L) t'

theorem exists_steps {ps : List Position} (h : (placeFrom t cursor items).outcome = .ok ps) :
    ∃ L, Steps t cursor items L (placeFrom t cursor items).tree ∧ ps = L.map Prod.fst := by
  induction items generalizing t cursor ps with
  | nil => exact ⟨[], .done t cursor, (Except.ok.inj h).symm⟩
  | cons item rest ih =>
    unfold placeFrom at h ⊢
    cases hplace : t.place cursor item with
    | error e => simp [hplace] at h
    | ok placed =>
      simp only [hplace] at h ⊢
      obtain ⟨parent, x, hdest, -⟩ := Tree.place_eq_ok_iff.mp hplace
      cases hrest : (placeFrom placed.tree placed.cursor rest).outcome with
      | error e => simp [hrest, Except.map] at h
      | ok qs =>
        obtain ⟨L, hsteps, rfl⟩ := ih hrest
        refine ⟨(placed.position, x) :: L, .step hdest hplace hsteps, ?_⟩
        simpa [hrest, Except.map] using h.symm

theorem Steps.placeFrom_eq (h : Steps t cursor items L t') :
    (placeFrom t cursor items).outcome = .ok (L.map Prod.fst) ∧
      (placeFrom t cursor items).tree = t' := by
  induction h with
  | done t cursor => exact ⟨rfl, rfl⟩
  | step hdest hplace h ih =>
    unfold placeFrom
    simp only [hplace]
    exact ⟨by rw [ih.1]; rfl, ih.2⟩

/-- The items of files, in the order in which they are read. -/
def collected (files : List SourceFile) : List Item :=
  files.flatMap fun source => scan source.1 source.2

theorem collected_cons (file : Text) (lines : List Text) (files : List SourceFile) :
    collected ((file, lines) :: files) = scan file lines ++ collected files :=
  List.flatMap_cons

/-- Reading files into a tree one after the other, with the positions of the items of each. -/
def readAll : Tree → List SourceFile → Except Error (Tree × List (List Position))
  | t, [] => .ok (t, [])
  | t, (file, lines) :: rest => do
    let positions ← (placeAll t file lines).outcome
    let (tree, more) ← readAll (placeAll t file lines).tree rest
    return (tree, positions :: more)

/-- Reading the files one after the other succeeds with these landings, file by file, and gives
the second tree. -/
inductive Reads : Tree → List SourceFile → List Landings → Tree → Prop
  | done (t : Tree) : Reads t [] [] t
  | file {t t₁ t' : Tree} {file : Text} {lines : List Text} {rest : List SourceFile}
      {L : Landings} {Ls : List Landings} (hsteps : Steps t none (scan file lines) L t₁)
      (h : Reads t₁ rest Ls t') : Reads t ((file, lines) :: rest) (L :: Ls) t'

theorem exists_reads {placed : List (List Position)} (h : readAll t files = .ok (t', placed)) :
    ∃ Ls, Reads t files Ls t' ∧ placed = Ls.map fun L => L.map Prod.fst := by
  induction files generalizing t placed with
  | nil =>
    obtain ⟨rfl, rfl⟩ := Prod.mk.inj (Except.ok.inj h)
    exact ⟨[], .done t, rfl⟩
  | cons source rest ih =>
    obtain ⟨ps, hps, h⟩ := bind_eq_ok.mp h
    obtain ⟨⟨t₁, more⟩, hmore, h⟩ := bind_eq_ok.mp h
    obtain ⟨rfl, rfl⟩ := Prod.mk.inj (Except.ok.inj h)
    obtain ⟨L, hsteps, rfl⟩ := exists_steps hps
    obtain ⟨Ls, hreads, rfl⟩ := ih hmore
    exact ⟨L :: Ls, .file hsteps hreads, rfl⟩

theorem Reads.append {t₁ : Tree} {more : List SourceFile} {Ms : List Landings}
    (h : Reads t files Ls t₁) (hmore : Reads t₁ more Ms t') :
    Reads t (files ++ more) (Ls ++ Ms) t' := by
  induction h with
  | done => exact hmore
  | file hsteps _ ih => exact .file hsteps (ih hmore)

/-- A run over files can be interrupted between two of them. -/
theorem Reads.exists_of_append {more : List SourceFile} (h : Reads t (files ++ more) Ls t') :
    ∃ Ls₁ Ls₂ t₁, Reads t files Ls₁ t₁ ∧ Reads t₁ more Ls₂ t' := by
  induction files generalizing t Ls with
  | nil => exact ⟨[], Ls, t, .done t, h⟩
  | cons source files ih =>
    cases h with
    | file hsteps h =>
      obtain ⟨Ls₁, Ls₂, t₁, hfirst, hrest⟩ := ih h
      exact ⟨_ :: Ls₁, Ls₂, t₁, .file hsteps hfirst, hrest⟩

/-- What every insertion keeps, a run over items keeps. -/
theorem Steps.keeps {P : Tree → Prop} (h : Steps t cursor items L t')
    (hstep : ∀ t parent x, P t → P (t.insert parent x).1) (ht : P t) : P t' := by
  induction h with
  | done => exact ht
  | step hdest hplace h ih =>
    obtain ⟨parent, x, -, htree, -⟩ := Tree.place_eq_ok_iff.mp hplace
    rw [htree] at ih
    exact ih (hstep _ parent x ht)

/-- What every insertion keeps, a run over files keeps. -/
theorem Reads.keeps {P : Tree → Prop} (h : Reads t files Ls t')
    (hstep : ∀ t parent x, P t → P (t.insert parent x).1) (ht : P t) : P t' := by
  induction h with
  | done => exact ht
  | file hsteps h ih => exact ih (hsteps.keeps hstep ht)

/-- The landings of a run over items tell its tree. -/
theorem Steps.tells (h : Steps t cursor items L t') (hcursor : t.HasCursor cursor)
    {M : Landings} (hM : Tells M t) : Tells (M ++ L) t' := by
  induction h generalizing M with
  | done t cursor => simpa using hM
  | @step t t' cursor item x rest parent placed L hdest hplace h ih =>
    obtain ⟨node, hnode, htree, hposition, -⟩ := hcursor.insert_of_place hdest hplace
    have hstep := hM.insert hnode x
    rw [← htree, ← hposition] at hstep
    simpa using ih (hcursor.place hplace) hstep

/-- The landings of a run over files tell its tree. -/
theorem Reads.tells (h : Reads t files Ls t') {M : Landings} (hM : Tells M t) :
    Tells (M ++ Ls.flatten) t' := by
  induction h generalizing M with
  | done t => simpa using hM
  | file hsteps h ih =>
    have hroot : ∀ t : Tree, t.HasCursor none := fun t p hp => by simp at hp
    simpa using ih (hsteps.tells (hroot _) hM)

end Source

end DocTree
