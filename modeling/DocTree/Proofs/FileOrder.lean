/-
The order in which files are read.

Sorting the top level makes an extraction forget, to some extent, the order in which the files
came:

* `Tree.mergeSort_eq_of_filter_eq` — sorting forgets all but the order of nodes of one name;
* `Extraction.extract_append_comm` — so files that have no top-level name and no key in common may
  be read in either order;
* `Tree.Lodges.sort` — a tree within its sorted version;
* `Extraction.extract_extract_append` — files may be read into a tree that has been sorted in
  between, which gives the same nodes, and in the same order unless one of them gets another name.
-/
import DocTree.Proofs.Lodging
import DocTree.Proofs.Reextraction
import DocTree.Report.Json

namespace DocTree

/-! ### Sorting by name -/

namespace Tree

variable {a b c t : Tree} {n : Option Text} {l l' : List Tree}

theorem eq_of_lex {x y : Text} (hyx : y.lex x = false) (hxy : x.lex y = false) : x = y := by
  rw [Bool.eq_false_iff, ne_eq, List.lex_eq_true_iff_lt] at hyx hxy
  exact @List.le_antisymm Char _ _ x y hyx hxy

theorem nameLe_of_name_eq (h : a.item.name = b.item.name) : nameLe a b = true := by
  have hself : nameLe b b = true := by simpa using nameLe_total b b
  rw [nameLe_iff, h, ← nameLe_iff]
  exact hself

theorem nameLe_antisymm (hab : nameLe a b = true) (hba : nameLe b a = true) :
    a.item.name = b.item.name := by
  rw [nameLe_iff] at hab hba
  cases hb : b.item.name with
  | none =>
    cases ha : a.item.name with
    | none => rfl
    | some x =>
      obtain ⟨y, hy, -⟩ := hba x ha
      exact absurd (hb.symm.trans hy) (by simp)
  | some y =>
    obtain ⟨x, hx, hyx⟩ := hab y hb
    obtain ⟨z, hz, hxz⟩ := hba x hx
    obtain rfl := Option.some.inj (hb.symm.trans hz)
    rw [hx, eq_of_lex hyx hxz]

/-- Sorting keeps the nodes of one name in their order. -/
theorem filter_mergeSort (l : List Tree) (n : Option Text) :
    (l.mergeSort nameLe).filter (fun c => c.item.name = n) =
      l.filter fun c => c.item.name = n := by
  have hname : ∀ {c : Tree}, c ∈ l.filter (fun c => c.item.name = n) → c.item.name = n := by
    intro c hc
    simpa using (List.mem_filter.mp hc).2
  have hsame : (l.filter fun c => c.item.name = n).Pairwise fun a b => nameLe a b = true := by
    refine List.pairwise_of_forall_mem_list fun a ha b hb => ?_
    exact nameLe_of_name_eq ((hname ha).trans (hname hb).symm)
  have hsublist := (List.sublist_mergeSort nameLe_trans nameLe_total hsame
    List.filter_sublist).filter fun c => c.item.name = n
  simp only [List.filter_filter, Bool.and_self] at hsublist
  refine (hsublist.eq_of_length ?_).symm
  exact ((List.mergeSort_perm l nameLe).filter _).length_eq.symm

theorem mem_of_filter_eq
    (h : ∀ n, l.filter (fun c => c.item.name = n) = l'.filter fun c => c.item.name = n)
    (hc : c ∈ l) : c ∈ l' := by
  have hfilter : c ∈ l.filter fun d => d.item.name = c.item.name :=
    List.mem_filter.mpr ⟨hc, by simp⟩
  rw [h] at hfilter
  exact (List.mem_filter.mp hfilter).1

/-- A sorted list is given by its nodes of each name. -/
theorem eq_of_filter_eq (hl : l.Pairwise fun a b => nameLe a b = true)
    (hl' : l'.Pairwise fun a b => nameLe a b = true)
    (h : ∀ n, l.filter (fun c => c.item.name = n) = l'.filter fun c => c.item.name = n) :
    l = l' := by
  induction l generalizing l' with
  | nil =>
    refine (List.eq_nil_iff_forall_not_mem.mpr fun c hc => ?_).symm
    exact absurd (mem_of_filter_eq (fun n => (h n).symm) hc) (by simp)
  | cons a r ih =>
    cases l' with
    | nil => exact absurd (mem_of_filter_eq h (List.mem_cons_self ..)) (by simp)
    | cons b r' =>
      have hb := mem_of_filter_eq (fun n => (h n).symm) (List.mem_cons_self (a := b) (l := r'))
      have ha := mem_of_filter_eq h (List.mem_cons_self (a := a) (l := r))
      obtain ⟨hfirst, hr⟩ := List.pairwise_cons.mp hl
      obtain ⟨hfirst', hr'⟩ := List.pairwise_cons.mp hl'
      -- each of the two first nodes may stand before the other, so they have one name
      have hname : a.item.name = b.item.name := by
        refine nameLe_antisymm ?_ ?_
        · rcases List.mem_cons.mp hb with rfl | hb
          · exact nameLe_of_name_eq rfl
          · exact hfirst b hb
        · rcases List.mem_cons.mp ha with rfl | ha
          · exact nameLe_of_name_eq rfl
          · exact hfirst' a ha
      obtain rfl : a = b := by
        have hhead := h a.item.name
        rw [List.filter_cons_of_pos (by simp), List.filter_cons_of_pos (by simp [hname])] at hhead
        exact (List.cons.inj hhead).1
      have hrest : ∀ n, r.filter (fun c => c.item.name = n) =
          r'.filter fun c => c.item.name = n := by
        intro n
        have hn := h n
        rw [List.filter_cons, List.filter_cons] at hn
        split at hn
        · exact (List.cons.inj hn).2
        · exact hn
      rw [ih hr hr' hrest]

/-- Sorting forgets all but the order of the nodes of each name. -/
theorem mergeSort_eq_of_filter_eq
    (h : ∀ n, l.filter (fun c => c.item.name = n) = l'.filter fun c => c.item.name = n) :
    l.mergeSort nameLe = l'.mergeSort nameLe := by
  refine eq_of_filter_eq (List.pairwise_mergeSort nameLe_trans nameLe_total l)
    (List.pairwise_mergeSort nameLe_trans nameLe_total l') fun n => ?_
  rw [filter_mergeSort, filter_mergeSort, h]

/-- Nodes that share no name may be put in either order before sorting. -/
theorem mergeSort_append_comm
    (h : ∀ c ∈ l, ∀ d ∈ l', c.item.name ≠ d.item.name) :
    (l ++ l').mergeSort nameLe = (l' ++ l).mergeSort nameLe := by
  refine mergeSort_eq_of_filter_eq fun n => ?_
  rw [List.filter_append, List.filter_append]
  by_cases hl : ∃ c ∈ l, c.item.name = n
  · obtain ⟨c, hc, rfl⟩ := hl
    have hnone : l'.filter (fun d => d.item.name = c.item.name) = [] := by
      rw [List.filter_eq_nil_iff]
      intro d hd hname
      exact h c hc d hd (of_decide_eq_true hname).symm
    rw [hnone, List.append_nil, List.nil_append]
  · have hnone : l.filter (fun c => c.item.name = n) = [] := by
      rw [List.filter_eq_nil_iff]
      exact fun c hc hname => hl ⟨c, hc, of_decide_eq_true hname⟩
    rw [hnone, List.append_nil, List.nil_append]

theorem sortChildren_perm {u : Tree} (h : u.children.Perm t.children) :
    u.sortChildren.children.Perm t.sortChildren.children :=
  (List.mergeSort_perm _ _).trans (h.trans (List.mergeSort_perm _ _).symm)

/-- The names of a sorted tree are given by its nodes in any order. -/
theorem childNames_sortChildren_eq {u : Tree} (h : u.children.Perm t.children) :
    u.sortChildren.childNames = t.sortChildren.childNames := by
  have hsorted : ∀ v : Tree, v.sortChildren.childNames.Pairwise fun x y => y.lex x = false := by
    intro v
    refine List.Pairwise.filterMap _ (fun c d hcd x hx y hy => ?_)
      (List.pairwise_mergeSort nameLe_trans nameLe_total v.children)
    obtain ⟨hx, -⟩ := Option.filter_eq_some_iff.mp hx
    obtain ⟨hy, -⟩ := Option.filter_eq_some_iff.mp hy
    obtain ⟨x', hx', hyx⟩ := nameLe_iff.mp hcd y hy
    obtain rfl := Option.some.inj (hx.symm.trans hx')
    exact hyx
  exact List.Perm.eq_of_pairwise (fun x y _ _ hyx hxy => eq_of_lex hyx hxy) (hsorted u)
    (hsorted t) ((sortChildren_perm h).filterMap _)

/-- Two nodes that are not in order are swapped. -/
theorem sortChildren_of_length_eq_two (hlength : t.children.length = 2)
    (h : ¬ t.children.Pairwise fun a b => nameLe a b = true) :
    t.sortChildren = { t with children := t.children.reverse } := by
  obtain ⟨a, b, hchildren⟩ := List.length_eq_two.mp hlength
  have hab : nameLe a b = false := by simpa [hchildren] using h
  simp [sortChildren, hchildren, List.mergeSort, hab]

/-! ### A tree within its sorted version -/

variable {W U : Tree} {i j : Nat}

/-- Where sorting takes the top-level node of an index; the indices behind stay. -/
def sortedPlace (t : Tree) (i : Nat) : Nat :=
  if i < t.children.length then t.sortedIndices.idxOf i else i

theorem length_sortedIndices (t : Tree) : t.sortedIndices.length = t.children.length := by
  rw [t.sortedIndices_perm.length_eq, List.length_range]

theorem sortedPlace_eq_followSort (h : i < t.children.length) :
    [t.sortedPlace i] = t.followSort [] [i] := by
  rw [sortedPlace, if_pos h, followSort_cons]

theorem sortedPlace_of_le (h : t.children.length ≤ i) : t.sortedPlace i = i :=
  if_neg (Nat.not_lt.mpr h)

theorem sortedPlace_of_getElem? (h : t.sortedIndices[j]? = some i) : t.sortedPlace i = j := by
  obtain ⟨hj, rfl⟩ := List.getElem?_eq_some_iff.mp h
  have hmem := t.sortedIndices_perm.mem_iff.mp (List.getElem_mem hj)
  rw [sortedPlace, if_pos (List.mem_range.mp hmem)]
  exact t.nodup_sortedIndices.idxOf_getElem j hj

/-- Every index is taken. -/
theorem exists_sortedPlace_eq (t : Tree) (j : Nat) : ∃ i, t.sortedPlace i = j := by
  by_cases hj : j < t.children.length
  · have hget := List.getElem?_eq_getElem (t.length_sortedIndices.symm ▸ hj)
    exact ⟨_, sortedPlace_of_getElem? hget⟩
  · exact ⟨j, sortedPlace_of_le (Nat.not_lt.mp hj)⟩

theorem sortedPlace_lt (h : i < t.children.length) : t.sortedPlace i < t.children.length := by
  rw [sortedPlace, if_pos h, ← t.length_sortedIndices]
  exact List.idxOf_lt_length_of_mem (t.sortedIndices_perm.mem_iff.mpr (List.mem_range.mpr h))

theorem sortedPlace_injective (t : Tree) : Function.Injective t.sortedPlace := by
  intro i j hij
  by_cases hi : i < t.children.length
  · by_cases hj : j < t.children.length
    · have hmem := t.sortedIndices_perm.mem_iff.mpr (List.mem_range.mpr hi)
      rw [sortedPlace, sortedPlace, if_pos hi, if_pos hj] at hij
      exact (List.idxOf_inj hmem).mp hij
    · have hlt := sortedPlace_lt hi
      rw [hij, sortedPlace_of_le (Nat.not_lt.mp hj)] at hlt
      exact absurd hlt hj
  · by_cases hj : j < t.children.length
    · have hlt := sortedPlace_lt hj
      rw [← hij, sortedPlace_of_le (Nat.not_lt.mp hi)] at hlt
      exact absurd hlt hi
    · rwa [sortedPlace_of_le (Nat.not_lt.mp hi), sortedPlace_of_le (Nat.not_lt.mp hj)] at hij

theorem get?_singleton (t : Tree) (i : Nat) : t.get? [i] = t.children[i]? := by
  rw [Tree.get?]
  cases t.children[i]? <;> simp

theorem getElem?_sortedPlace (t : Tree) (i : Nat) :
    t.sortChildren.children[t.sortedPlace i]? = t.children[i]? := by
  by_cases hi : i < t.children.length
  · have hget : t.get? [i] = some t.children[i] := by
      rw [get?_singleton, List.getElem?_eq_getElem hi]
    have hmoved := get?_followSort hget (by simp)
    rw [← sortedPlace_eq_followSort hi, ← hget] at hmoved
    rwa [get?_singleton, get?_singleton] at hmoved
  · have hle := Nat.not_lt.mp hi
    rw [sortedPlace_of_le hle, List.getElem?_eq_none hle,
      List.getElem?_eq_none (by simpa [sortChildren] using hle)]

/-- A tree stands in its sorted version. -/
theorem Lodges.sort (h : KeysDistinct t.entries) :
    Lodges t.sortedPlace t.sortChildren t t.sortChildren where
  injective := t.sortedPlace_injective
  child := t.getElem?_sortedPlace
  next := by
    intro n
    rw [sortedPlace_of_le (Nat.le_add_right _ n)]
    simp [sortChildren]
  beside := fun _ _ => rfl
  keys := h.perm t.entries_sortChildren_perm

/-- Sorting leaves no node beside. -/
theorem not_keyBeside_sortedPlace (t host : Tree) (k : Text) :
    ¬ host.KeyBeside t.sortedPlace k := by
  rintro ⟨j, c, hj, -⟩
  obtain ⟨i, hi⟩ := t.exists_sortedPlace_eq j
  exact hj i hi

/-- What has become of the sorted nodes, and what has been added behind them. -/
theorem Lodges.children_eq (h : Lodges t.sortedPlace t.sortChildren W U)
    (hlength : t.children.length ≤ W.children.length) :
    U.children = t.sortedIndices.map (fun i => W.children[i]?.getD .empty) ++
      W.children.drop t.children.length := by
  refine List.ext_getElem? fun j => ?_
  by_cases hj : j < t.children.length
  · have hget := List.getElem?_eq_getElem (t.length_sortedIndices.symm ▸ hj)
    obtain ⟨i, hi⟩ : ∃ i, t.sortedIndices[j]? = some i := ⟨_, hget⟩
    have hlt : i < W.children.length := by
      have hmem := t.sortedIndices_perm.mem_iff.mp (List.mem_of_getElem? hi)
      exact Nat.lt_of_lt_of_le (List.mem_range.mp hmem) hlength
    have hchild := h.child i
    rw [sortedPlace_of_getElem? hi] at hchild
    rw [List.getElem?_append_left (by rwa [List.length_map, t.length_sortedIndices]),
      List.getElem?_map, hi, hchild, Option.map_some, List.getElem?_eq_getElem hlt,
      Option.getD_some]
  · have hle := Nat.not_lt.mp hj
    have hchild := h.child j
    rw [sortedPlace_of_le hle] at hchild
    rw [List.getElem?_append_right (by rwa [List.length_map, t.length_sortedIndices]),
      List.getElem?_drop, List.length_map, t.length_sortedIndices, Nat.add_sub_cancel' hle, hchild]

theorem map_range_getD (hlength : i ≤ W.children.length) :
    (List.range i).map (fun i => W.children[i]?.getD .empty) = W.children.take i := by
  refine List.ext_getElem (by simp [hlength]) fun j hj hj' => ?_
  have hlt : j < W.children.length := by
    simp only [List.length_map, List.length_range] at hj
    omega
  simp [List.getElem?_eq_getElem hlt]

/-- The nodes are the same in both trees. -/
theorem Lodges.perm (h : Lodges t.sortedPlace t.sortChildren W U)
    (hlength : t.children.length ≤ W.children.length) : U.children.Perm W.children := by
  have hfront := (t.sortedIndices_perm.map fun i => W.children[i]?.getD .empty)
  rw [map_range_getD hlength] at hfront
  have happend := hfront.append_right (W.children.drop t.children.length)
  rwa [← h.children_eq hlength, List.take_append_drop] at happend

/-- The names of the top-level nodes, in order; a nameless one is listed too. -/
def names (t : Tree) : List (Option Text) := t.children.map fun c => c.item.name

/-- If the sorted nodes keep their names, sorting again gives the same. -/
theorem Lodges.mergeSort_eq (h : Lodges t.sortedPlace t.sortChildren W U)
    (hlength : t.children.length ≤ W.children.length)
    (hnames : t.sortChildren.names <+: U.names) :
    U.children.mergeSort nameLe = W.children.mergeSort nameLe := by
  -- the nodes of `t` have kept their names, so they are sorted as they were in `t`
  have hname : ∀ c i, (c, i) ∈ t.children.zipIdx →
      (W.children[i]?.getD .empty).item.name = c.item.name := by
    intro c i hci
    have hc := List.mem_zipIdx_iff_getElem?.mp hci
    obtain ⟨rest, hrest⟩ := hnames
    have hkept : U.names[t.sortedPlace i]? = some c.item.name := by
      have hold : t.sortChildren.names[t.sortedPlace i]? = some c.item.name := by
        rw [names, List.getElem?_map, t.getElem?_sortedPlace, hc]
        rfl
      rw [← hrest, List.getElem?_append_left (List.getElem?_eq_some_iff.mp hold).1, hold]
    rw [names, List.getElem?_map, h.child i] at hkept
    obtain ⟨d, hd, hname⟩ := Option.map_eq_some_iff.mp hkept
    rw [hd]
    exact hname
  have hfront : t.sortedIndices.map (fun i => W.children[i]?.getD .empty) =
      (W.children.take t.children.length).mergeSort nameLe := by
    have hmap := List.map_mergeSort (r := fun a b : Tree × Nat => nameLe a.1 b.1) (s := nameLe)
      (f := fun a => W.children[a.2]?.getD .empty) (l := t.children.zipIdx) fun a ha b hb => by
        simp only [nameLe, hname a.1 a.2 ha, hname b.1 b.2 hb]
    rw [sortedIndices, List.map_map]
    refine hmap.trans ?_
    have hzip : t.children.zipIdx.map (fun a => W.children[a.2]?.getD .empty) =
        (List.range t.children.length).map fun i => W.children[i]?.getD .empty := by
      rw [List.range_eq_range', ← List.zipIdx_map_snd 0 t.children, List.map_map]
      rfl
    rw [hzip, map_range_getD hlength]
  refine mergeSort_eq_of_filter_eq fun n => ?_
  rw [h.children_eq hlength, hfront, List.filter_append, filter_mergeSort, ← List.filter_append,
    List.take_append_drop]

/-! ### Trees apart -/

/-- No top-level name of one tree is one of the other, and no top-level key.  Nameless nodes are
allowed in one of the two. -/
structure Apart (a b : Tree) : Prop where
  names : ∀ c ∈ a.children, ∀ d ∈ b.children, c.item.name ≠ d.item.name
  keys : ∀ c ∈ a.children, ∀ d ∈ b.children, c.key ≠ none → c.key ≠ d.key

theorem Apart.symm (h : a.Apart b) : b.Apart a where
  names := fun d hd c hc => (h.names c hc d hd).symm
  keys := fun d hd c hc hne heq => h.keys c hc d hd (heq ▸ hne) heq.symm

theorem Apart.of_sortChildren (h : a.sortChildren.Apart b.sortChildren) : a.Apart b := by
  have hmem : ∀ {t c : Tree}, c ∈ t.children → c ∈ t.sortChildren.children := fun hc =>
    (List.mergeSort_perm _ _).mem_iff.mpr hc
  exact ⟨fun c hc d hd => h.names c (hmem hc) d (hmem hd),
    fun c hc d hd => h.keys c (hmem hc) d (hmem hd)⟩

end Tree

/-! ### Extractions -/

namespace Extraction

open DocTree.Tree

variable {s : Surroundings} {settings : Settings} {t t' : Tree} {files fs gs : List Path}

theorem sources_append (s : Surroundings) (settings : Settings) (fs gs : List Path) :
    sources s settings (fs ++ gs) = sources s settings fs ++ sources s settings gs :=
  List.filterMap_append

theorem readable_append :
    Readable s settings (fs ++ gs) ↔ Readable s settings fs ∧ Readable s settings gs :=
  List.forall_mem_append

/-- An extraction succeeds with a tree when its files can be read, and the tree they give is
arranged in the end. -/
theorem extract_eq_iff :
    ((extract s settings t files).failure = none ∧ (extract s settings t files).tree = t') ↔
      Readable s settings files ∧
        ∃ Ls u, Source.Reads t (sources s settings files) Ls u ∧ arranged settings u = t' := by
  constructor
  · rintro ⟨hfailure, htree⟩
    rw [extract_failure_eq_none] at hfailure
    obtain ⟨hreadable, Ls, hreads⟩ := exists_reads hfailure
    exact ⟨hreadable, Ls, _, hreads, (extract_tree hfailure).symm.trans htree⟩
  · rintro ⟨hreadable, Ls, u, hreads, harranged⟩
    obtain ⟨hfailure, htree⟩ := readFiles_of_reads hreadable hreads
    refine ⟨extract_failure_eq_none.mpr hfailure, ?_⟩
    rw [extract_tree hfailure, htree, harranged]

theorem arranged_of_sort (hsort : settings.sortTopLevel = true) (t : Tree) :
    arranged settings t = t.sortChildren :=
  if_pos hsort

/-- Files whose trees are apart can be read one after the other, which puts together their
trees. -/
theorem extract_append_of_apart {a b : Tree} {Ls Ms : List Landings}
    (hsort : settings.sortTopLevel = true) (hreadable : Readable s settings (fs ++ gs))
    (ha : Source.Reads .empty (sources s settings fs) Ls a)
    (hb : Source.Reads .empty (sources s settings gs) Ms b) (hapart : a.Apart b) :
    (extract s settings .empty (fs ++ gs)).failure = none ∧
      (extract s settings .empty (fs ++ gs)).tree.children =
        (a.children ++ b.children).mergeSort nameLe := by
  obtain ⟨Ms', u, hreads, hchildren⟩ := hb.beside ha.keysDistinct hapart.keys
  have hboth := ha.append hreads
  rw [← sources_append] at hboth
  obtain ⟨hfailure, htree⟩ := extract_eq_iff.mpr ⟨hreadable, _, u, hboth, rfl⟩
  refine ⟨hfailure, ?_⟩
  rw [htree, arranged_of_sort hsort, sortChildren, hchildren]

/-- **Files that have nothing in common commute.**  Let the top level be sorted, and let two lists
of files be extracted with success, each into the empty tree, so that the two trees are apart.
Then the files can be extracted together, in either order, with the same result. -/
theorem extract_append_comm (s : Surroundings) (settings : Settings) (fs gs : List Path)
    (hsort : settings.sortTopLevel = true)
    (hf : (extract s settings .empty fs).failure = none)
    (hg : (extract s settings .empty gs).failure = none)
    (hapart : (extract s settings .empty fs).tree.Apart (extract s settings .empty gs).tree) :
    (extract s settings .empty (fs ++ gs)).failure = none ∧
      (extract s settings .empty (gs ++ fs)).failure = none ∧
      (extract s settings .empty (fs ++ gs)).tree.entitiesJson =
        (extract s settings .empty (gs ++ fs)).tree.entitiesJson := by
  obtain ⟨hreadf, Ls, a, ha, hta⟩ := extract_eq_iff.mp ⟨hf, rfl⟩
  obtain ⟨hreadg, Ms, b, hb, htb⟩ := extract_eq_iff.mp ⟨hg, rfl⟩
  rw [← hta, ← htb, arranged_of_sort hsort, arranged_of_sort hsort] at hapart
  have hab := hapart.of_sortChildren
  obtain ⟨hfailure, hchildren⟩ :=
    extract_append_of_apart hsort (readable_append.mpr ⟨hreadf, hreadg⟩) ha hb hab
  obtain ⟨hfailure', hchildren'⟩ :=
    extract_append_of_apart hsort (readable_append.mpr ⟨hreadg, hreadf⟩) hb ha hab.symm
  refine ⟨hfailure, hfailure', ?_⟩
  rw [entitiesJson, entitiesJson, hchildren, hchildren', mergeSort_append_comm hab.names]

/-- The header of the zoo and that of the ark have nothing in common, so they can be extracted in
either order. -/
theorem extract_zoo_ark_comm :
    (extract zooDisk {} .empty (zooPaths.take 1 ++ [.ofText "ark.h".toList])).failure = none ∧
      (extract zooDisk {} .empty (zooPaths.take 1 ++ [.ofText "ark.h".toList])).tree.entitiesJson =
        (extract zooDisk {} .empty
          ([.ofText "ark.h".toList] ++ zooPaths.take 1)).tree.entitiesJson := by
  have hruns : (extract zooDisk {} .empty (zooPaths.take 1)).failure = none ∧
      (extract zooDisk {} .empty [.ofText "ark.h".toList]).failure = none ∧
      ∀ c ∈ (extract zooDisk {} .empty (zooPaths.take 1)).tree.children,
        ∀ d ∈ (extract zooDisk {} .empty [.ofText "ark.h".toList]).tree.children,
          c.item.name ≠ d.item.name ∧ (c.key ≠ none → c.key ≠ d.key) := by
    decide +kernel
  obtain ⟨hzoo, hark, hapart⟩ := hruns
  have hcomm := extract_append_comm zooDisk {} (zooPaths.take 1) [.ofText "ark.h".toList] rfl hzoo
    hark ⟨fun c hc d hd => (hapart c hc d hd).1, fun c hc d hd => (hapart c hc d hd).2⟩
  exact ⟨hcomm.1, hcomm.2.2⟩

/-- **Extending a sorted tree.**  Let the top level be sorted, and let files be extracted with
success into the empty tree.  If the last of them are instead extracted into the result of the
first, this succeeds as well and gives the same names and nodes at the top level; and the whole
result is the same if the nodes that were there keep their names while these files are read. -/
theorem extract_extract_append (s : Surroundings) (settings : Settings) (before order : List Path)
    (hsort : settings.sortTopLevel = true)
    (hrun : (extract s settings .empty (before ++ order)).failure = none) :
    (extract s settings .empty before).failure = none ∧
      (extract s settings (extract s settings .empty before).tree order).failure = none ∧
      (extract s settings (extract s settings .empty before).tree order).tree.childNames =
        (extract s settings .empty (before ++ order)).tree.childNames ∧
      (extract s settings (extract s settings .empty before).tree order).tree.children.Perm
        (extract s settings .empty (before ++ order)).tree.children ∧
      ((extract s settings .empty before).tree.names <+:
          (readFiles s settings (extract s settings .empty before).tree order).tree.names →
        (extract s settings (extract s settings .empty before).tree order).tree.entitiesJson =
          (extract s settings .empty (before ++ order)).tree.entitiesJson) := by
  obtain ⟨hreadable, Ls, W, hreads, hwhole⟩ := extract_eq_iff.mp ⟨hrun, rfl⟩
  obtain ⟨hreadb, hreado⟩ := readable_append.mp hreadable
  rw [sources_append] at hreads
  obtain ⟨Ls₁, Ls₂, t, hfirst, hsecond⟩ := hreads.exists_of_append
  obtain ⟨hfailure, htree⟩ := extract_eq_iff.mpr ⟨hreadb, Ls₁, t, hfirst, rfl⟩
  rw [arranged_of_sort hsort] at htree hwhole
  rw [htree, ← hwhole]
  -- the second run, carried out in the sorted tree
  obtain ⟨Ls', U, hagain, hlodges⟩ := hsecond.lodge (.sort hfirst.keysDistinct)
    fun k hk => absurd hk (t.not_keyBeside_sortedPlace _ k)
  have hlength : t.children.length ≤ W.children.length :=
    hsecond.keeps (P := fun u => t.children.length ≤ u.children.length)
      (fun u parent x h => Nat.le_trans h (length_children_le_insert u parent x)) (Nat.le_refl _)
  have hperm := hlodges.perm hlength
  obtain ⟨hfailure', hread⟩ := readFiles_of_reads hreado hagain
  rw [extract_tree hfailure', hread, arranged_of_sort hsort]
  refine ⟨hfailure, extract_failure_eq_none.mpr hfailure', childNames_sortChildren_eq hperm,
    sortChildren_perm hperm, fun hnames => ?_⟩
  rw [entitiesJson, entitiesJson, sortChildren, sortChildren, hlodges.mergeSort_eq hlength hnames]

/-- The definition of a function may be extracted into the sorted tree of the two headers, which
gives the result of extracting all three files. -/
theorem extract_extract_append_zoo :
    (extract zooDisk {} .empty zooPaths).failure = none ∧
      (extract zooDisk {} (extract zooDisk {} .empty (zooPaths.take 2)).tree
          (zooPaths.drop 2)).tree.entitiesJson =
        (extract zooDisk {} .empty zooPaths).tree.entitiesJson := by
  have hruns : (extract zooDisk {} .empty zooPaths).failure = none ∧
      (readFiles zooDisk {} .empty (zooPaths.take 2)).failure = none ∧
      (readFiles zooDisk {} .empty (zooPaths.take 2)).tree.children.length = 2 ∧
      ¬ (readFiles zooDisk {} .empty (zooPaths.take 2)).tree.children.Pairwise
        fun a b => nameLe a b = true := by
    decide +kernel
  obtain ⟨hrun, hheaders, hlength, hunsorted⟩ := hruns
  have hextend := extract_extract_append zooDisk {} (zooPaths.take 2) (zooPaths.drop 2) rfl hrun
  refine ⟨hrun, hextend.2.2.2.2 ?_⟩
  rw [extract_tree hheaders, arranged_of_sort rfl, sortChildren_of_length_eq_two hlength hunsorted]
  decide +kernel

end Extraction

end DocTree
