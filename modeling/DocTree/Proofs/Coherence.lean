/-
Coherence of a node's texts.

A comment comes with its plain text and its summary.  Comments on the same thing are merged text
by text, so the three texts of a node may stem from different comments:

* `Item.text_mergeAll` — each text of merged items is the first longest one;
* `Item.Coherent` — the three texts of an item belong together, as they do in every comment;
* `Source.history` — the tree and the landings of any run over files, which may fail;
* `Source.coherent_iff` — a node is coherent exactly when it has the texts of one comment.
-/
import DocTree.Proofs.Locations
import DocTree.Proofs.Recognition
import Mathlib.Data.List.MinMax

namespace DocTree

/-! ### Texts of merged items -/

namespace Item

variable {x y : Item} {xs : List Item}

/-- The first of the items whose text of the field is longest. -/
def longest (f : TextField) (xs : List Item) : Option Item :=
  xs.argmax fun x => extent (x.text f)

/-- Merging keeps of each text the first longest one. -/
theorem text_mergeAll (xs : List Item) (f : TextField) :
    (mergeAll xs).map (·.text f) = (longest f xs).map (·.text f) := by
  induction xs using List.reverseRecOn with
  | nil => rfl
  | append_singleton xs x ih =>
    rw [mergeAll_concat, longest, List.argmax_concat, ← longest]
    cases hxs : mergeAll xs with
    | none =>
      obtain rfl := mergeAll_eq_none.mp hxs
      rfl
    | some y =>
      rw [hxs] at ih
      obtain ⟨d, hd, htext⟩ := Option.map_eq_some_iff.mp ih.symm
      rw [hd]
      simp only [Option.map_some, Option.getD_some, text_merge, longer?_eq_ite, ← htext]
      split <;> rfl

/-- The text of a merged item is that of one of the items. -/
theorem exists_longest (h : mergeAll xs = some y) (f : TextField) :
    ∃ d ∈ xs, longest f xs = some d ∧ d.text f = y.text f := by
  have htext := text_mergeAll xs f
  rw [h] at htext
  obtain ⟨d, hd, hdf⟩ := Option.map_eq_some_iff.mp htext.symm
  exact ⟨d, List.argmax_mem hd, hd, hdf⟩

/-- The plain text of an item is that of its comment, and the summary is that of the plain
text. -/
def Coherent (x : Item) : Prop :=
  x.raw.isSome ∧ x.plain = x.raw.map Comment.plain ∧ x.summary = x.plain.map Comment.summary

instance (x : Item) : Decidable x.Coherent := inferInstanceAs (Decidable (_ ∧ _ ∧ _))

theorem Coherent.of_eq (h : x.Coherent) (hraw : x.raw = y.raw) (hplain : x.plain = y.plain)
    (hsummary : x.summary = y.summary) : y.Coherent := by
  rwa [Coherent, hraw, hplain, hsummary] at h

theorem Coherent.declare (h : x.Coherent) (declaration : Text) :
    (x.declare declaration).Coherent := by
  simpa only [Coherent, Item.declare] using h

/-- The plain text and the summary are given by the comment. -/
theorem Coherent.eq_of_raw (hx : x.Coherent) (hy : y.Coherent) (hraw : x.raw = y.raw) :
    x.plain = y.plain ∧ x.summary = y.summary := by
  have hplain : x.plain = y.plain := by rw [hx.2.1, hy.2.1, hraw]
  exact ⟨hplain, by rw [hx.2.2, hy.2.2, hplain]⟩

/-- Coherent items that are merged give a coherent one exactly when one of them has all three
texts of the result. -/
theorem coherent_mergeAll_iff (hxs : ∀ x ∈ xs, x.Coherent) (h : mergeAll xs = some y) :
    y.Coherent ↔
      ∃ x ∈ xs, x.raw = y.raw ∧ x.plain = y.plain ∧ x.summary = y.summary := by
  constructor
  · intro hy
    obtain ⟨d, hd, -, hraw⟩ := exists_longest h .raw
    exact ⟨d, hd, hraw, (hxs d hd).eq_of_raw hy hraw⟩
  · rintro ⟨x, hx, hraw, hplain, hsummary⟩
    exact (hxs x hx).of_eq hraw hplain hsummary

end Item

/-! ### Comments -/

namespace Source

open DocTree.Tree

variable {t : Tree} {cursor : Cursor} {item x : Item} {items : List Item} {M : Landings}
  {file : Text} {lines : List Text} {files : List SourceFile} {q : Position}

/-- Every comment is coherent, with or without a declaration. -/
theorem coherent_itemAt (location : Location) (first : Text) (rest : List Text) :
    (itemAt location first rest).1.Coherent := by
  have hcomment : ∀ comment, (itemOf comment location).Coherent := fun _ => ⟨rfl, rfl, rfl⟩
  unfold itemAt
  dsimp only
  split
  · exact hcomment _
  · split
    · exact hcomment _
    · exact (hcomment _).declare _

theorem coherent_of_mem_scan (h : item ∈ scan file lines) : item.Coherent := by
  obtain ⟨before, line, rest, -, -, rfl⟩ := exists_itemAt_of_mem_scanFrom h
  exact coherent_itemAt _ _ _

/-! ### Runs that may fail -/

/-- Where items land when they are placed one after the other, up to the first failure. -/
def landingsFrom (t : Tree) (cursor : Cursor) : List Item → Landings
  | [] => []
  | item :: rest =>
    match t.destination cursor item, t.place cursor item with
    | .ok (_, x), .ok placed =>
      (placed.position, x) :: landingsFrom placed.tree placed.cursor rest
    | _, _ => []

/-- A file is read into a tree, as far as it can be placed, with its landings behind those from
before. -/
def readOn (before : Tree × Landings) (source : SourceFile) : Tree × Landings :=
  ((placeAll before.1 source.1 source.2).tree,
    before.2 ++ landingsFrom before.1 none (scan source.1 source.2))

/-- The tree that files give when they are read one after the other, whether or not all of them
can be placed, and what has landed where. -/
def history (files : List SourceFile) : Tree × Landings := files.foldl readOn (.empty, [])

/-- One item of a run: it is placed, and the run goes on from there, or it fails and the run has
ended. -/
theorem landingsFrom_cons_cases (t : Tree) (cursor : Cursor) (item : Item) (rest : List Item) :
    (∃ parent x placed, t.destination cursor item = .ok (parent, x) ∧
        t.place cursor item = .ok placed ∧
        (placeFrom t cursor (item :: rest)).tree =
          (placeFrom placed.tree placed.cursor rest).tree ∧
        landingsFrom t cursor (item :: rest) =
          (placed.position, x) :: landingsFrom placed.tree placed.cursor rest) ∨
      ((placeFrom t cursor (item :: rest)).tree = t ∧
        landingsFrom t cursor (item :: rest) = []) := by
  cases hplace : t.place cursor item with
  | ok placed =>
    obtain ⟨parent, x, hdest, -⟩ := place_eq_ok_iff.mp hplace
    refine .inl ⟨parent, x, placed, hdest, rfl, ?_, ?_⟩
    · simp [placeFrom, hplace]
    · simp [landingsFrom, hdest, hplace]
  | error e =>
    refine .inr ⟨tree_placeFrom_of_error hplace rest, ?_⟩
    rw [landingsFrom, hplace]
    split
    · simp_all
    · rfl

/-- The landings of a run tell its tree, whether or not it fails. -/
theorem tells_landingsFrom (hM : Tells M t) (hcursor : t.HasCursor cursor) :
    Tells (M ++ landingsFrom t cursor items) (placeFrom t cursor items).tree := by
  induction items generalizing t cursor M with
  | nil => simpa [landingsFrom, placeFrom] using hM
  | cons item rest ih =>
    rcases landingsFrom_cons_cases t cursor item rest with
      ⟨parent, x, placed, hdest, hplace, htree, hlandings⟩ | ⟨htree, hlandings⟩
    · obtain ⟨node, hnode, hinsert, hposition, -⟩ := hcursor.insert_of_place hdest hplace
      have hstep := hM.insert hnode x
      rw [← hinsert, ← hposition] at hstep
      rw [htree, hlandings]
      simpa using ih hstep (hcursor.place hplace)
    · rw [htree, hlandings, List.append_nil]
      exact hM

/-- What lands is an item of the run, as it appears at its destination. -/
theorem exists_item_of_mem_landingsFrom (h : (q, x) ∈ landingsFrom t cursor items) :
    ∃ item ∈ items, ∃ n d m a,
      x = { item with name := n, display := d, minimal := m, asIs := a } := by
  induction items generalizing t cursor with
  | nil => exact absurd h (by simp [landingsFrom])
  | cons item rest ih =>
    rcases landingsFrom_cons_cases t cursor item rest with
      ⟨parent, y, placed, hdest, -, -, hlandings⟩ | ⟨-, hlandings⟩
    · rw [hlandings] at h
      rcases List.mem_cons.mp h with hfirst | h
      · obtain ⟨-, rfl⟩ := Prod.mk.inj hfirst
        exact ⟨item, by simp, exists_eq_of_destination hdest⟩
      · obtain ⟨other, hmem, hx⟩ := ih h
        exact ⟨other, by simp [hmem], hx⟩
    · rw [hlandings] at h
      exact absurd h (by simp)

/-- In every run over files, the landings tell the tree, and what has landed is coherent. -/
theorem tells_history (files : List SourceFile) :
    Tells (history files).2 (history files).1 ∧
      ∀ landing ∈ (history files).2, landing.2.Coherent := by
  unfold history
  induction files using List.reverseRecOn with
  | nil => exact ⟨.empty, by simp⟩
  | append_singleton files source ih =>
    rw [List.foldl_append]
    obtain ⟨htells, hcoherent⟩ := ih
    refine ⟨tells_landingsFrom htells fun p hp => by simp at hp, fun landing hmem => ?_⟩
    rcases List.mem_append.mp hmem with hmem | hmem
    · exact hcoherent landing hmem
    · obtain ⟨item, hitem, n, d, m, a, hx⟩ := exists_item_of_mem_landingsFrom hmem
      exact (coherent_of_mem_scan hitem).of_eq (by rw [hx]) (by rw [hx]) (by rw [hx])

/-- **When the texts of a node are coherent.**  Read any files one after the other, as far as each
can be placed.  Whatever has landed on a node is coherent, and each text of the node is the first
longest one among what has landed there; so the node is coherent exactly when its comment, plain
text and summary are those of one of the items that have landed there. -/
theorem coherent_iff (files : List SourceFile) {q : Position} {node : Tree} (hq : q ≠ [])
    (hnode : (history files).1.get? q = some node) :
    (∀ d ∈ landedAt (history files).2 q, d.Coherent) ∧
      (∀ f, (Item.longest f (landedAt (history files).2 q)).map (·.text f) =
        some (node.item.text f)) ∧
      (node.item.Coherent ↔ ∃ d ∈ landedAt (history files).2 q,
        d.raw = node.item.raw ∧ d.plain = node.item.plain ∧ d.summary = node.item.summary) := by
  obtain ⟨htells, hcoherent⟩ := tells_history files
  have hlanded : ∀ d ∈ landedAt (history files).2 q, d.Coherent :=
    fun d hd => hcoherent (q, d) (mem_landedAt.mp hd)
  have hmerged : Item.mergeAll (landedAt (history files).2 q) = some node.item := by
    rw [← htells.below q hq, item?_of_get? hnode]
  refine ⟨hlanded, fun f => ?_, Item.coherent_mergeAll_iff hlanded hmerged⟩
  rw [← Item.text_mergeAll, hmerged, Option.map_some]

/-- A class that is declared twice, with a line of comment for each declaration. -/
def twoLines : SourceFile :=
  ("a.h".toList, ["//! Short.", "class Foo;", "//! A bit longer.", "class Foo;"].map String.toList)

/-- The second comment is longer in each respect, so the node has its texts. -/
theorem coherent_twoLines :
    ∃ node, (history [twoLines]).1.get? [0] = some node ∧
      (landedAt (history [twoLines]).2 [0]).length = 2 ∧ node.item.Coherent := by
  have hrun : ((history [twoLines]).1.item? [0]).isSome ∧
      (landedAt (history [twoLines]).2 [0]).length = 2 ∧
      ∃ d ∈ landedAt (history [twoLines]).2 [0], ∀ y ∈ (history [twoLines]).1.item? [0],
        d.raw = y.raw ∧ d.plain = y.plain ∧ d.summary = y.summary := by
    decide +kernel
  obtain ⟨hsome, hlength, d, hd, htexts⟩ := hrun
  obtain ⟨y, hy⟩ := Option.isSome_iff_exists.mp hsome
  obtain ⟨node, hnode, rfl⟩ := exists_get?_of_item? hy
  obtain ⟨-, -, hiff⟩ := coherent_iff [twoLines] (by simp) hnode
  exact ⟨node, hnode, hlength, hiff.mpr ⟨d, hd, htexts _ hy⟩⟩

/-- The same with a first comment that takes three lines but says less. -/
def blockAndLine : SourceFile :=
  ("a.h".toList, ["/*!", " * Short.", " */", "class Foo;", "//! A bit longer.", "class Foo;"].map
    String.toList)

/-- The comment of the node is the first one, and its plain text that of the second. -/
theorem not_coherent_blockAndLine :
    ∃ node, (history [blockAndLine]).1.get? [0] = some node ∧
      node.item.raw = some "/*!\n * Short.\n */".toList ∧
      node.item.plain = some "A bit longer.".toList ∧ ¬ node.item.Coherent := by
  have hrun : ((history [blockAndLine]).1.item? [0]).isSome ∧
      ∀ y ∈ (history [blockAndLine]).1.item? [0],
        y.raw = some "/*!\n * Short.\n */".toList ∧ y.plain = some "A bit longer.".toList ∧
          ¬ y.Coherent := by
    decide +kernel
  obtain ⟨y, hy⟩ := Option.isSome_iff_exists.mp hrun.1
  obtain ⟨node, hnode, rfl⟩ := exists_get?_of_item? hy
  exact ⟨node, hnode, hrun.2 _ hy⟩

end Source

end DocTree
