/-
Merging in order.

Items that are merged into a node one after the other give what can be read off them at once
(`Item.mergedWith`):

* `Item.text_foldl_merge` — each text is the first longest one of those that are there;
* `Item.addLocations_eq` — the locations are those of the node, and behind them the new ones, each
  of them once, in order;
* `Item.merge_assoc` — it does not matter which of the items are merged first;
* `Tree.mergeEach_eq_modify` — all this happens at one node, of which only the item changes.
-/
import DocTree.Proofs.Coherence

namespace DocTree

namespace Item

/-! ### Texts -/

/-- The longer one of the first longest text and one more is the first longest of them all. -/
theorem longer?_argmax (texts : List Text) (t : Option Text) :
    longer? (texts.argmax List.length) t = (texts ++ t.toList).argmax List.length := by
  cases t with
  | none =>
    rw [Option.toList_none, List.append_nil]
    cases texts.argmax List.length <;> rfl
  | some t =>
    rw [Option.toList_some, List.argmax_concat]
    cases texts.argmax List.length with
    | none => rfl
    | some longest =>
      simp only [longer?, longer]
      split <;> rfl

/-- Each text of merged items is the first longest of those that are there, and missing if none
is. -/
theorem text_foldl_merge (x : Item) (xs : List Item) (f : TextField) :
    (xs.foldl merge x).text f = ((x :: xs).filterMap (·.text f)).argmax List.length := by
  induction xs using List.reverseRecOn with
  | nil => cases h : x.text f <;> simp [h]
  | append_singleton xs y ih =>
    have hlast : [y].filterMap (·.text f) = (y.text f).toList := by cases h : y.text f <;> simp [h]
    rw [List.foldl_append, List.foldl_cons, List.foldl_nil, text_merge, ih, longer?_argmax,
      ← List.cons_append, List.filterMap_append, hlast]

theorem longer?_assoc (a b c : Option Text) :
    longer? (longer? a b) c = longer? a (longer? b c) := by
  simp only [longer?_eq_ite]
  split_ifs <;> first | rfl | omega

/-! ### Locations -/

theorem addLocations_cons (old : List Location) (l : Location) (rest : List Location) :
    addLocations old (l :: rest) =
      addLocations (if old.contains l then old else old ++ [l]) rest := by
  rw [addLocations, List.foldl_cons]
  rfl

/-- Of the new locations those are added that are not known, each once, in order. -/
theorem addLocations_eq (old new : List Location) :
    addLocations old new = old ++ (new.removeAll old).eraseDups := by
  induction new generalizing old with
  | nil => simp [addLocations]
  | cons l rest ih =>
    rw [addLocations_cons, ih]
    by_cases hl : l ∈ old
    · simp [hl, List.removeAll]
    · have hrest : rest.removeAll (old ++ [l]) =
          (rest.removeAll old).filter fun m => !m == l := by
        simp only [List.removeAll, List.filter_filter]
        refine List.filter_congr fun m _ => ?_
        by_cases hm : m = l <;> simp [hm]
      have hfirst : (l :: rest).removeAll old = l :: rest.removeAll old := by
        simp [List.removeAll, hl]
      rw [hfirst, List.eraseDups_cons, ← hrest]
      simp [hl]

/-- Known locations that come once more among the new ones add nothing. -/
theorem addLocations_addLocations (a b c : List Location) :
    addLocations a (addLocations b c) = addLocations a (b ++ c) := by
  induction c generalizing b with
  | nil => rw [List.append_nil]; rfl
  | cons l rest ih =>
    rw [addLocations_cons, ih]
    by_cases hl : l ∈ b
    · have hknown : (addLocations a b).contains l = true :=
        List.contains_iff_mem.mpr (mem_addLocations.mpr (.inr hl))
      rw [if_pos (List.contains_iff_mem.mpr hl), addLocations_append, addLocations_append,
        addLocations_cons, if_pos hknown]
    · rw [if_neg (by simpa using hl), List.append_assoc, List.singleton_append]

/-! ### The closed form -/

/-- It does not matter which of three items are merged first. -/
theorem merge_assoc (x y z : Item) : (x.merge y).merge z = x.merge (y.merge z) := by
  refine eq_of_text (fun f => ?_) rfl ?_ rfl
  · simp only [text_merge, longer?_assoc]
  · show addLocations (addLocations x.locations y.locations) z.locations =
      addLocations x.locations (addLocations y.locations z.locations)
    rw [addLocations_addLocations, addLocations_append]

/-- The last item decides on the kind and on whether the result stands on its own. -/
theorem foldl_merge_last (x : Item) (xs : List Item) :
    (xs.foldl merge x).kind = (xs.getLast?.getD x).kind ∧
      (xs.foldl merge x).asIs = (xs.getLast?.getD x).asIs := by
  rcases List.eq_nil_or_concat' xs with rfl | ⟨front, y, rfl⟩
  · exact ⟨rfl, rfl⟩
  · rw [List.foldl_append, List.getLast?_concat]
    exact ⟨rfl, rfl⟩

/-- The first among the longest of the texts that the items have, if any of them has one. -/
def firstLongest (text : Item → Option Text) (xs : List Item) : Option Text :=
  (xs.filterMap text).argmax List.length

/-- What can be read off an item and those that are merged into it in order. -/
def mergedWith (x : Item) (xs : List Item) : Item where
  name := firstLongest name (x :: xs)
  qualifiedName := firstLongest qualifiedName (x :: xs)
  kind := (xs.getLast?.getD x).kind
  raw := firstLongest raw (x :: xs)
  plain := firstLongest plain (x :: xs)
  summary := firstLongest summary (x :: xs)
  directives := (firstLongest (fun y => some y.directives) (x :: xs)).getD []
  declaration := firstLongest declaration (x :: xs)
  display := firstLongest display (x :: xs)
  minimal := firstLongest minimal (x :: xs)
  templateParameters := firstLongest templateParameters (x :: xs)
  locations := x.locations ++ ((xs.flatMap locations).removeAll x.locations).eraseDups
  asIs := (xs.getLast?.getD x).asIs

theorem foldl_merge_eq_mergedWith (x : Item) (xs : List Item) :
    xs.foldl merge x = x.mergedWith xs := by
  obtain ⟨hkind, hasIs⟩ := foldl_merge_last x xs
  refine eq_of_text (fun f => ?_) hkind ?_ hasIs
  · have htext := text_foldl_merge x xs f
    cases f with
    | directives =>
      -- directives are never missing
      have hlongest : firstLongest (fun y => some y.directives) (x :: xs) =
          some (xs.foldl merge x).directives := htext.symm
      show some _ = some ((firstLongest (fun y => some y.directives) (x :: xs)).getD [])
      rw [hlongest]
      rfl
    | _ => exact htext
  · rw [locations_foldl_merge, addLocations_eq]
    rfl

/-- Of two longest texts the first one stays, an empty text does not give way to a missing one, and
the kind is that of the last item. -/
example :
    let x : Item := { summary := some "One.".toList, kind := some .classType }
    let y : Item := { summary := some "Two.".toList, raw := some [] }
    (x.mergedWith [y, {}]).summary = some "One.".toList ∧
      (x.mergedWith [y, {}]).raw = some [] ∧ (x.mergedWith [y, {}]).kind = none := by
  decide

end Item

/-! ### Merging into a node -/

namespace Tree

theorem modify_modify (f g : Tree → Tree) (t : Tree) (p : Position) :
    (t.modify f p).modify g p = t.modify (fun node => g (f node)) p := by
  induction p generalizing t with
  | nil => rfl
  | cons i p ih =>
    simp only [modify, List.modify_modify_eq]
    congr 2
    funext child
    exact ih child

theorem modify_eq_self {f : Tree → Tree} (hf : ∀ node, f node = node) (t : Tree) (p : Position) :
    t.modify f p = t := by
  induction p generalizing t with
  | nil => exact hf t
  | cons i p ih =>
    have hid : (fun child : Tree => child.modify f p) = id := funext ih
    rw [modify, hid, List.modify_id]
    cases t
    rfl

/-- Merges items into the node at a position, one after the other. -/
def mergeEach (t : Tree) (p : Position) (xs : List Item) : Tree :=
  xs.foldl (fun t x => t.modify (·.mergeItem x) p) t

theorem mergeEach_eq_modify (t : Tree) (p : Position) (xs : List Item) :
    t.mergeEach p xs =
      t.modify (fun node => { node with item := xs.foldl Item.merge node.item }) p := by
  induction xs generalizing t with
  | nil => exact (modify_eq_self (fun node => by cases node; rfl) t p).symm
  | cons x xs ih =>
    have hcons : t.mergeEach p (x :: xs) = (t.modify (·.mergeItem x) p).mergeEach p xs := rfl
    rw [hcons, ih, modify_modify]
    rfl

/-- **Merging in order has a closed form.**  Items that are merged into a node one after the other
change its item, and nothing else in the tree: each text becomes the first longest one of those
that are there, the last item decides on the kind and on whether the comment stands on its own, and
the locations of the node are followed by those of the items in order, without any that is there
already.  So it does not matter which items are merged first, and an item that is merged into itself
changes nothing. -/
theorem mergeEach_eq :
    (∀ (t : Tree) (p : Position) (xs : List Item),
      t.mergeEach p xs =
        t.modify (fun node => { node with item := node.item.mergedWith xs }) p) ∧
      (∀ x y z : Item, (x.merge y).merge z = x.merge (y.merge z)) ∧
      ∀ x : Item, x.merge x = x := by
  refine ⟨fun t p xs => ?_, Item.merge_assoc, Item.merge_self⟩
  rw [mergeEach_eq_modify]
  simp only [Item.foldl_merge_eq_mergedWith]

end Tree

end DocTree
