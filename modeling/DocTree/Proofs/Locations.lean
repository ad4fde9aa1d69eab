/-
Locations in the tree.

Each comment that is collected from a file leaves its location, the file and the line on which
it starts, in the tree:

* `Source.flatMap_locations_scanFrom_sublist` — the comments of a file start on different lines,
  in order;
* `Item.locations_of_mergeAll` — merging keeps locations that are all different, in order;
* `Source.locations_readAll` — so over files that are shown differently, every comment has
  its node, every location is in one node, once, and every node has its locations in the order of
  the comments.
-/
import DocTree.Proofs.History
import Mathlib.Data.List.Nodup
import Mathlib.Data.List.Flatten
import Mathlib.Data.List.Pairwise

namespace DocTree

/-! ### Merging locations -/

namespace Item

theorem addLocations_append (old a b : List Location) :
    addLocations old (a ++ b) = addLocations (addLocations old a) b := by
  rw [addLocations, List.foldl_append]
  rfl

/-- New locations go to the end. -/
theorem addLocations_of_nodup {old new : List Location} (h : (old ++ new).Nodup) :
    addLocations old new = old ++ new := by
  induction new generalizing old with
  | nil => exact (List.append_nil old).symm
  | cons l rest ih =>
    have hl : old.contains l = false := by
      have hdisjoint := (List.nodup_append.mp h).2.2
      rw [Bool.eq_false_iff, ne_eq, List.contains_iff_mem]
      exact fun hmem => hdisjoint l hmem l (by simp) rfl
    have hrest : (old ++ [l] ++ rest).Nodup := by simpa using h
    have hstep : addLocations old (l :: rest) = addLocations (old ++ [l]) rest := by
      rw [addLocations, List.foldl_cons, hl]
      rfl
    rw [hstep, ih hrest]
    simp

theorem locations_foldl_merge (x : Item) (xs : List Item) :
    (xs.foldl merge x).locations = addLocations x.locations (xs.flatMap locations) := by
  induction xs generalizing x with
  | nil => rfl
  | cons y ys ih =>
    rw [List.foldl_cons, ih, List.flatMap_cons, addLocations_append]
    rfl

/-- Merged items have all their locations, in order, if these are different. -/
theorem locations_of_mergeAll {xs : List Item} {y : Item} (h : mergeAll xs = some y)
    (hnodup : (xs.flatMap locations).Nodup) : y.locations = xs.flatMap locations := by
  cases xs with
  | nil => exact absurd h (by simp [mergeAll])
  | cons x xs =>
    obtain rfl := Option.some.inj h
    rw [locations_foldl_merge, addLocations_of_nodup (by simpa using hnodup), List.flatMap_cons]

end Item

/-! ### Where comments start -/

namespace Source

variable {file : Text} {lines : List Text} {files : List SourceFile} {item : Item}

theorem locations_itemAt (location : Location) (first : Text) (rest : List Text) :
    (itemAt location first rest).1.locations = [location] := by
  unfold itemAt
  dsimp only
  split
  · rfl
  · split <;> rfl

/-- The locations of the lines on which a comment can start. -/
def starts (file : Text) (number : Nat) (lines : List Text) : List Location :=
  ((lines.zipIdx number).filter fun line => Comment.startsAt line.1).map fun line =>
    ⟨file, line.2⟩

/-- The items of a file start on lines of their own, in order. -/
theorem flatMap_locations_scanFrom_sublist (file : Text) (number taken : Nat) (lines : List Text) :
    ((scanFrom file number taken lines).flatMap Item.locations).Sublist
      (starts file number lines) := by
  have hskip : ∀ (number : Nat) (line : Text) (rest : List Text),
      (starts file (number + 1) rest).Sublist (starts file number (line :: rest)) := by
    intro number line rest
    unfold starts
    rw [List.zipIdx_cons]
    exact ((List.sublist_cons_self _ _).filter _).map _
  fun_induction scanFrom file number taken lines with
  | case1 => exact List.nil_sublist _
  | case2 number taken line rest ih => exact ih.trans (hskip number line rest)
  | case3 number line rest hstart item used hitem ih =>
    have hlocations : item.locations = [⟨file, number⟩] := by
      have := locations_itemAt ⟨file, number⟩ line rest
      rwa [hitem] at this
    have hfirst : starts file number (line :: rest) =
        ⟨file, number⟩ :: starts file (number + 1) rest := by
      simp [starts, List.zipIdx_cons, hstart]
    rw [List.flatMap_cons, hlocations, hfirst]
    exact ih.cons_cons _
  | case4 number line rest hstart ih => exact ih.trans (hskip number line rest)

/-- An item of a file is that of a comment that starts on one of its lines. -/
theorem exists_itemAt_of_mem_scanFrom {number taken : Nat}
    (h : item ∈ scanFrom file number taken lines) :
    ∃ before line rest, lines = before ++ line :: rest ∧ Comment.startsAt line = true ∧
      item = (itemAt ⟨file, (number + before.length : Nat)⟩ line rest).1 := by
  -- one line further, one more line before
  have hcons : ∀ {number : Nat} {first : Text} {more : List Text},
      (∃ before line rest, more = before ++ line :: rest ∧ Comment.startsAt line = true ∧
        item = (itemAt ⟨file, (number + 1 + before.length : Nat)⟩ line rest).1) →
      ∃ before line rest, first :: more = before ++ line :: rest ∧ Comment.startsAt line = true ∧
        item = (itemAt ⟨file, (number + before.length : Nat)⟩ line rest).1 := by
    rintro number first more ⟨before, line, rest, rfl, hstart, hitem⟩
    refine ⟨first :: before, line, rest, rfl, hstart, ?_⟩
    rw [hitem, List.length_cons]
    have : number + 1 + before.length = number + (before.length + 1) := by omega
    rw [this]
  fun_induction scanFrom file number taken lines with
  | case1 => simp at h
  | case2 number taken line rest ih => exact hcons (ih h)
  | case3 number line rest hstart first used hitem ih =>
    rcases List.mem_cons.mp h with rfl | h
    · exact ⟨[], line, rest, rfl, hstart, by simp [hitem]⟩
    · exact hcons (ih h)
  | case4 number line rest hstart ih => exact hcons (ih h)

theorem nodup_starts (file : Text) (number : Nat) (lines : List Text) :
    (starts file number lines).Nodup := by
  have hindices : ((lines.zipIdx number).map Prod.snd).Nodup := by
    rw [List.zipIdx_map_snd]
    exact List.nodup_range'
  have hlocations : ((lines.zipIdx number).map fun line => (⟨file, line.2⟩ : Location)).Nodup := by
    refine List.Nodup.of_map (fun l : Location => l.line.toNat) ?_
    rw [List.map_map]
    exact hindices
  exact hlocations.sublist (List.filter_sublist.map _)

theorem file_of_mem_locations {l : Location}
    (h : l ∈ (scan file lines).flatMap Item.locations) : l.file = file := by
  have hmem := (flatMap_locations_scanFrom_sublist file 1 0 lines).subset h
  obtain ⟨line, -, rfl⟩ := List.mem_map.mp hmem
  rfl

/-- Files that are shown differently have different locations. -/
theorem nodup_locations_collected (h : (files.map Prod.fst).Nodup) :
    ((collected files).flatMap Item.locations).Nodup := by
  induction files with
  | nil => simp [collected]
  | cons source rest ih =>
    obtain ⟨hnot, hrest⟩ := List.nodup_cons.mp h
    rw [collected_cons, List.flatMap_append, List.nodup_append]
    refine ⟨(nodup_starts _ _ _).sublist (flatMap_locations_scanFrom_sublist _ _ _ _), ih hrest, ?_⟩
    rintro l hl l' hl' rfl
    obtain ⟨item, hitem, hloc⟩ := List.mem_flatMap.mp hl'
    obtain ⟨other, hother, hscan⟩ := List.mem_flatMap.mp hitem
    have hfile := file_of_mem_locations hl
    have hfile' := file_of_mem_locations (List.mem_flatMap.mpr ⟨item, hscan, hloc⟩)
    exact hnot (List.mem_map.mpr ⟨other, hother, hfile'.symm.trans hfile⟩)

/-! ### Landings and their locations -/

variable {t t' : Tree} {cursor : Cursor} {items : List Item} {L : Landings} {Ls : List Landings}

/-- The items of a run land with their locations, each on its own node. -/
theorem Steps.forall₂ (h : Steps t cursor items L t') {P : Position × Item → Prop}
    {Q : Item → Prop} (hL : ∀ landing ∈ L, P landing) (hitems : ∀ item ∈ items, Q item) :
    List.Forall₂ (fun item q => Q item ∧ ∃ x, P (q, x) ∧ x.locations = item.locations) items
      (L.map Prod.fst) := by
  induction h with
  | done => exact .nil
  | step hdest hplace h ih =>
    obtain ⟨n, d, m, a, hx⟩ := Tree.exists_eq_of_destination hdest
    refine .cons ⟨hitems _ (by simp), _, hL _ (List.mem_cons_self ..), by rw [hx]⟩ ?_
    exact ih (fun landing hmem => hL landing (by simp [hmem])) fun item hmem =>
      hitems item (by simp [hmem])

theorem Reads.forall₂ (h : Reads t files Ls t') {P : Position × Item → Prop}
    (hL : ∀ landing ∈ Ls.flatten, P landing) :
    List.Forall₂ (fun source positions =>
        List.Forall₂ (fun item q => item ∈ scan source.1 source.2 ∧
          ∃ x, P (q, x) ∧ x.locations = item.locations) (scan source.1 source.2) positions)
      files (Ls.map fun L => L.map Prod.fst) := by
  induction h with
  | done => exact .nil
  | file hsteps h ih =>
    refine .cons (hsteps.forall₂ (fun landing hmem => hL landing (by simp [hmem]))
      fun _ hmem => hmem)
      (ih fun landing hmem => hL landing ?_)
    rw [List.flatten_cons]
    exact List.mem_append_right _ hmem

/-- Every item of a file has a location. -/
theorem exists_mem_locations (h : item ∈ scan file lines) : ∃ l, l ∈ item.locations := by
  obtain ⟨before, line, rest, -, -, rfl⟩ := exists_itemAt_of_mem_scanFrom h
  exact ⟨_, by rw [locations_itemAt]; exact List.mem_singleton.mpr rfl⟩

theorem Steps.exists_mem_locations (h : Steps t cursor items L t')
    (hitems : ∀ item ∈ items, ∃ l, l ∈ item.locations) :
    ∀ landing ∈ L, ∃ l, l ∈ landing.2.locations := by
  induction h with
  | done => simp
  | step hdest hplace h ih =>
    obtain ⟨n, d, m, a, hx⟩ := Tree.exists_eq_of_destination hdest
    intro landing hmem
    rcases List.mem_cons.mp hmem with rfl | hmem
    · obtain ⟨l, hl⟩ := hitems _ (List.mem_cons_self ..)
      exact ⟨l, by rw [hx]; exact hl⟩
    · exact ih (fun item hitem => hitems item (by simp [hitem])) landing hmem

theorem Reads.exists_mem_locations (h : Reads t files Ls t') :
    ∀ landing ∈ Ls.flatten, ∃ l, l ∈ landing.2.locations := by
  induction h with
  | done => simp
  | file hsteps h ih =>
    intro landing hmem
    rw [List.flatten_cons] at hmem
    rcases List.mem_append.mp hmem with hmem | hmem
    · exact hsteps.exists_mem_locations (fun _ => Source.exists_mem_locations) landing hmem
    · exact ih landing hmem

theorem Steps.flatMap_locations (h : Steps t cursor items L t') :
    L.flatMap (fun landing => landing.2.locations) = items.flatMap Item.locations := by
  induction h with
  | done => rfl
  | step hdest hplace h ih =>
    obtain ⟨n, d, m, a, hx⟩ := Tree.exists_eq_of_destination hdest
    rw [List.flatMap_cons, List.flatMap_cons, ih, hx]

/-- The locations that have landed are those that were collected, in that order. -/
theorem Reads.flatMap_locations (h : Reads t files Ls t') :
    Ls.flatten.flatMap (fun landing => landing.2.locations) =
      (collected files).flatMap Item.locations := by
  induction h with
  | done => rfl
  | file hsteps h ih =>
    rw [List.flatten_cons, List.flatMap_append, hsteps.flatMap_locations, ih, collected_cons,
      List.flatMap_append]

end Source

section Tells

variable {L : Landings} {t node : Tree} {q : Position} {x : Item} {l : Location}

theorem flatMap_landedAt_sublist (L : Landings) (q : Position) :
    ((landedAt L q).flatMap Item.locations).Sublist
      (L.flatMap fun landing => landing.2.locations) := by
  rw [landedAt, List.flatMap_map]
  exact List.filter_sublist.flatMap _

/-- A node below the root has the locations that have landed there, in order. -/
theorem Tells.locations_eq (h : Tells L t)
    (hnodup : (L.flatMap fun landing => landing.2.locations).Nodup) (hq : q ≠ [])
    (hnode : t.get? q = some node) :
    node.item.locations = (landedAt L q).flatMap Item.locations := by
  have hitem := h.below q hq
  rw [Tree.item?_of_get? hnode] at hitem
  exact Item.locations_of_mergeAll hitem.symm (hnodup.sublist (flatMap_landedAt_sublist L q))

/-- Whatever has landed has a node, with its locations. -/
theorem Tells.exists_get? (h : Tells L t)
    (hnodup : (L.flatMap fun landing => landing.2.locations).Nodup) (hx : (q, x) ∈ L) :
    ∃ node, t.get? q = some node ∧ ∀ l ∈ x.locations, l ∈ node.item.locations := by
  have hq := h.landed _ hx
  have hland := mem_landedAt.mpr hx
  have hsome : Item.mergeAll (landedAt L q) ≠ none := by
    rw [ne_eq, Item.mergeAll_eq_none]
    exact List.ne_nil_of_mem hland
  obtain ⟨y, hy⟩ := Option.ne_none_iff_exists'.mp hsome
  obtain ⟨node, hnode, -⟩ := Tree.exists_get?_of_item? ((h.below q hq).trans hy)
  refine ⟨node, hnode, fun l hl => ?_⟩
  rw [h.locations_eq hnodup hq hnode]
  exact List.mem_flatMap.mpr ⟨x, hland, hl⟩

/-- A location in a node has landed there. -/
theorem Tells.exists_landing (h : Tells L t)
    (hnodup : (L.flatMap fun landing => landing.2.locations).Nodup) (hnode : t.get? q = some node)
    (hl : l ∈ node.item.locations) : ∃ x, (q, x) ∈ L ∧ l ∈ x.locations := by
  by_cases hq : q = []
  · have hroot := h.root
    rw [← hq, Tree.item?_of_get? hnode] at hroot
    rw [Option.some.inj hroot] at hl
    exact absurd hl (by simp)
  · rw [h.locations_eq hnodup hq hnode] at hl
    obtain ⟨x, hx, hl⟩ := List.mem_flatMap.mp hl
    exact ⟨x, mem_landedAt.mp hx, hl⟩

/-- A location that lands once is in one node. -/
theorem eq_of_mem_locations (hnodup : (L.flatMap fun landing => landing.2.locations).Nodup)
    {a b : Position × Item} (ha : a ∈ L) (hb : b ∈ L) (hla : l ∈ a.2.locations)
    (hlb : l ∈ b.2.locations) : a = b := by
  by_contra hne
  have hpairwise := (List.nodup_flatMap.mp hnodup).2
  have hsymm : Std.Symm (Function.onFun List.Disjoint fun landing : Position × Item =>
      landing.2.locations) := ⟨fun _ _ hd l h₁ h₂ => hd h₂ h₁⟩
  exact hpairwise.forall ha hb hne hla hlb

end Tells

namespace Source

/-- **Locations are neither lost nor doubled.**  Read files that are shown differently into the
empty tree.  Every comment of a file has a node, which carries the line on which the comment
starts; every location that was collected is in one node and once there; and every node below the
root has locations, in the order in which the comments were read. -/
theorem locations_readAll {files : List SourceFile} {t : Tree} {placed : List (List Position)}
    (hfiles : (files.map Prod.fst).Nodup) (h : readAll .empty files = .ok (t, placed)) :
    List.Forall₂ (fun source positions =>
        List.Forall₂ (fun item q => ∃ before line rest node,
          source.2 = before ++ line :: rest ∧ Comment.startsAt line = true ∧
          item = (itemAt ⟨source.1, (1 + before.length : Nat)⟩ line rest).1 ∧
          t.get? q = some node ∧ ⟨source.1, (1 + before.length : Nat)⟩ ∈ node.item.locations)
          (scan source.1 source.2) positions)
      files placed ∧
    (∀ l ∈ (collected files).flatMap Item.locations, ∃ q node, t.get? q = some node ∧
      node.item.locations.count l = 1 ∧
      ∀ q' node', t.get? q' = some node' → l ∈ node'.item.locations → q' = q) ∧
    ∀ q node, t.get? q = some node → q ≠ [] →
      node.item.locations ≠ [] ∧
      node.item.locations.Sublist ((collected files).flatMap Item.locations) := by
  obtain ⟨Ls, hreads, rfl⟩ := exists_reads h
  have htells : Tells Ls.flatten t := by simpa using hreads.tells .empty
  have hall := hreads.flatMap_locations
  have hnodup := nodup_locations_collected hfiles
  rw [← hall] at hnodup
  have hsublist : ∀ {q node}, t.get? q = some node → q ≠ [] →
      node.item.locations.Sublist ((collected files).flatMap Item.locations) := by
    intro q node hnode hq
    rw [← hall, htells.locations_eq hnodup hq hnode]
    exact flatMap_landedAt_sublist _ q
  have hlocated : ∀ landing ∈ Ls.flatten, ∃ l, l ∈ landing.2.locations :=
    hreads.exists_mem_locations
  refine ⟨?_, ?_, ?_⟩
  · refine (hreads.forall₂ fun landing hmem => htells.exists_get? hnodup hmem).imp ?_
    intro source positions hsource
    refine hsource.imp fun item q hitem => ?_
    obtain ⟨hmem, x, ⟨node, hnode, hlocations⟩, hx⟩ := hitem
    obtain ⟨before, line, rest, hlines, hstart, rfl⟩ := exists_itemAt_of_mem_scanFrom hmem
    refine ⟨before, line, rest, node, hlines, hstart, rfl, hnode, hlocations _ ?_⟩
    rw [hx, locations_itemAt]
    exact List.mem_singleton.mpr rfl
  · intro l hl
    rw [← hall] at hl
    obtain ⟨⟨q, x⟩, hx, hlx⟩ := List.mem_flatMap.mp hl
    obtain ⟨node, hnode, hlocations⟩ := htells.exists_get? hnodup hx
    refine ⟨q, node, hnode, ?_, fun q' node' hnode' hl' => ?_⟩
    · have hq : q ≠ [] := htells.landed _ hx
      have hnode_nodup := hnodup.sublist (hall ▸ hsublist hnode hq)
      exact List.count_eq_one_of_mem hnode_nodup (hlocations l hlx)
    · obtain ⟨x', hx', hlx'⟩ := htells.exists_landing hnodup hnode' hl'
      exact congrArg Prod.fst (eq_of_mem_locations hnodup hx' hx hlx' hlx)
  · intro q node hnode hq
    refine ⟨?_, hsublist hnode hq⟩
    -- something has landed there, and every item that lands has its location
    have hitem := htells.below q hq
    rw [Tree.item?_of_get? hnode] at hitem
    have hsome : landedAt Ls.flatten q ≠ [] := by
      intro hnil
      rw [hnil] at hitem
      exact absurd hitem (by simp [Item.mergeAll])
    obtain ⟨x, hx⟩ := List.exists_mem_of_ne_nil _ hsome
    obtain ⟨l, hl⟩ := hlocated _ (mem_landedAt.mp hx)
    rw [htells.locations_eq hnodup hq hnode]
    exact List.ne_nil_of_mem (List.mem_flatMap.mpr ⟨x, hx, hl⟩)

/-- A header that declares a function, and a source that defines it. -/
def zooFiles : List SourceFile :=
  [("zoo.h".toList, ["//!> A scope.".toList, "namespace Zoo".toList, "\x7b".toList,
      "//! A function.".toList, "void feed(int amount = 1);".toList]),
    ("zoo.cpp".toList, ["//! Defined here.".toList, "void Zoo::feed(int amount)".toList])]

/-- Each of the three comments is in one node, once; those on the function have landed on one
node. -/
theorem locations_zooFiles :
    (zooFiles.map Prod.fst).Nodup ∧ ∃ t, readAll .empty zooFiles =
        .ok (t, [[[0], [0, 0]], [[0, 0]]]) ∧
      ∀ l ∈ [⟨"zoo.h".toList, 1⟩, ⟨"zoo.h".toList, 4⟩, (⟨"zoo.cpp".toList, 1⟩ : Location)],
        ∃ q node, t.get? q = some node ∧ node.item.locations.count l = 1 := by
  have hread : (readAll .empty zooFiles).toOption.map Prod.snd =
      some [[[0], [0, 0]], [[0, 0]]] := by
    decide +kernel
  have hcollected : (collected zooFiles).flatMap Item.locations =
      [⟨"zoo.h".toList, 1⟩, ⟨"zoo.h".toList, 4⟩, ⟨"zoo.cpp".toList, 1⟩] := by
    decide +kernel
  have hfiles : (zooFiles.map Prod.fst).Nodup := by decide
  cases h : readAll .empty zooFiles with
  | error e => rw [h] at hread; exact absurd hread (by simp [Except.toOption])
  | ok result =>
    obtain ⟨t, placed⟩ := result
    rw [h] at hread
    obtain rfl : placed = _ := Option.some.inj hread
    refine ⟨hfiles, t, rfl, fun l hl => ?_⟩
    obtain ⟨q, node, hnode, hcount, -⟩ :=
      (locations_readAll hfiles h).2.1 l (by rw [hcollected]; exact hl)
    exact ⟨q, node, hnode, hcount⟩

end Source

end DocTree
