/-
Which files are shown alike.

A file inside of the directory is shown by the names that lead there, any other one as given, so a
path that is given from the working directory may read like one that is seen from the directory:

* `Path.ofText_render` — reading the text of a path gives it back, so paths with the same text are
  the same (`Path.render_inj`);
* `Path.SeenBy.display_eq`, `Path.display_of_outside` — how a file is shown;
* `Path.Mistaken` — when one file is shown in the way of another;
* `Path.display_ne_iff` — all other files are told apart by what is shown, so merging drops a
  location only for one in the same file.
-/
import DocTree.Path
import DocTree.Proofs.Merging
import DocTree.Proofs.PathLookup

namespace DocTree

namespace Path

variable {cwd names : List Text} {directory : Option Text} {p q : Path}

/-! ### Paths as text -/

/-- A name in a path is not empty, has no slash and is not `.`. -/
def IsName (n : Text) : Prop := n ≠ [] ∧ '/' ∉ n ∧ n ≠ ['.']

instance (n : Text) : Decidable (IsName n) :=
  inferInstanceAs (Decidable (n ≠ [] ∧ '/' ∉ n ∧ n ≠ ['.']))

/-- A path as it is read: there are at most two slashes in front of its names. -/
structure IsNormal (p : Path) : Prop where
  slashes_le : p.slashes ≤ 2
  isName : ∀ n ∈ p.names, IsName n

theorem isNormal_ofText (t : Text) : (ofText t).IsNormal where
  slashes_le := by
    simp only [ofText]
    split <;> decide
  isName n hn := by
    obtain ⟨hmem, hfilter⟩ := List.mem_filter.mp hn
    simp only [Bool.and_eq_true, Bool.not_eq_true', List.isEmpty_eq_false_iff, bne_iff_ne]
      at hfilter
    exact ⟨hfilter.1, not_mem_of_mem_splitOn hmem, hfilter.2⟩

/-- Slashes in front give no names. -/
theorem names_ofText_slashes (k : Nat) (t : Text) :
    (ofText (List.replicate k '/' ++ t)).names = (ofText t).names := by
  induction k with
  | zero => rfl
  | succ k ih =>
    rw [← ih, List.replicate_succ, List.cons_append]
    simp [ofText, List.splitOn_cons_eq_if_modifyHead]

/-- The names of a path, put together, do not start with a slash. -/
theorem takeWhile_join_names (h : ∀ n ∈ names, IsName n) :
    (Text.join ['/'] names).takeWhile (· == '/') = [] := by
  cases names with
  | nil => rfl
  | cons n rest =>
    obtain ⟨hne, hslash, -⟩ := h n (List.mem_cons_self ..)
    obtain ⟨c, n, rfl⟩ := List.exists_cons_of_ne_nil hne
    have hc : (c == '/') = false := by
      simpa using fun hc : c = '/' => hslash (hc ▸ List.mem_cons_self ..)
    cases rest with
    | nil => simp [Text.join, hc]
    | cons m rest => simp [Text.join, hc]

theorem names_ofText_join (h : ∀ n ∈ names, IsName n) :
    (ofText (Text.join ['/'] names)).names = names := by
  cases hnames : names with
  | nil => decide
  | cons n rest =>
    rw [← hnames]
    have hsplit : (Text.join ['/'] names).splitOn '/' = names :=
      List.splitOn_intercalate '/' (fun n hn => (h n hn).2.1) (by simp [hnames])
    simp only [ofText, hsplit]
    refine List.filter_eq_self.mpr fun n hn => ?_
    obtain ⟨hne, -, hdot⟩ := h n hn
    simp [hne, hdot]

/-- Reading the text of a path gives the path back. -/
theorem ofText_render (h : p.IsNormal) : ofText p.render = p := by
  obtain ⟨slashes, names⟩ := p
  obtain ⟨hslashes, hnames⟩ := h
  dsimp only at hslashes hnames
  by_cases hempty : slashes = 0 ∧ names = []
  · obtain ⟨rfl, rfl⟩ := hempty
    decide
  have htext : render ⟨slashes, names⟩ = List.replicate slashes '/' ++ Text.join ['/'] names :=
    if_neg hempty
  have hlength : ((render ⟨slashes, names⟩).takeWhile (· == '/')).length = slashes := by
    rw [htext, List.takeWhile_append_of_pos (by simp), takeWhile_join_names hnames]
    simp
  have hread : (ofText (render ⟨slashes, names⟩)).names = names := by
    rw [htext, names_ofText_slashes, names_ofText_join hnames]
  have hfront : (ofText (render ⟨slashes, names⟩)).slashes = slashes := by
    simp only [ofText, hlength]
    obtain rfl | rfl | rfl : slashes = 0 ∨ slashes = 1 ∨ slashes = 2 := by omega
    all_goals rfl
  generalize ofText (render ⟨slashes, names⟩) = p at hread hfront
  obtain ⟨slashes', names'⟩ := p
  rw [show slashes' = slashes from hfront, show names' = names from hread]

theorem render_inj (hp : p.IsNormal) (hq : q.IsNormal) : p.render = q.render ↔ p = q :=
  ⟨fun h => by rw [← ofText_render hp, h, ofText_render hq], congrArg render⟩

/-- All names from the root are names, if those of the working directory are. -/
theorem isName_absolute (hcwd : ∀ n ∈ cwd, IsName n) (hp : p.IsNormal) :
    ∀ n ∈ absolute cwd p, IsName n := by
  have hstep : ∀ (names here : List Text), (∀ n ∈ names, IsName n) → (∀ n ∈ here, IsName n) →
      ∀ n ∈ names.foldl stepName here, IsName n := by
    intro names
    induction names with
    | nil => exact fun here _ hhere => hhere
    | cons name names ih =>
      intro here hnames hhere
      refine ih _ (fun n hn => hnames n (List.mem_cons_of_mem _ hn)) fun n hn => ?_
      unfold stepName at hn
      split at hn
      · exact hhere n ((List.dropLast_sublist _).subset hn)
      · rcases List.mem_append.mp hn with hn | hn
        · exact hhere n hn
        · exact List.mem_singleton.mp hn ▸ hnames name (List.mem_cons_self ..)
  refine hstep _ _ hp.isName ?_
  split
  · exact hcwd
  · simp

/-! ### Files inside of a directory and outside -/

/-- The directory contains the file, and the names lead there. -/
def SeenBy (cwd : List Text) (directory : Option Text) (p : Path) (names : List Text) : Prop :=
  ∃ d, directory = some d ∧ (ofText d).isImpossible = false ∧
    absolute cwd p = absolute cwd (ofText d) ++ names

theorem SeenBy.display_eq (h : SeenBy cwd directory p names) (hp : p.isImpossible = false) :
    p.display cwd directory = render { names } := by
  obtain ⟨d, rfl, hd, habsolute⟩ := h
  have hprefix := List.isPrefixOf?_eq_some_iff_append_eq.mpr habsolute.symm
  simp [display, hp, hd, hprefix]

theorem display_of_outside (h : ∀ names, ¬ SeenBy cwd directory p names) :
    p.display cwd directory = p.render := by
  unfold display
  split
  · rfl
  · rename_i d
    split
    · rfl
    · rename_i hpossible
      split
      · rename_i inside hinside
        simp only [Bool.or_eq_true, not_or, Bool.not_eq_true] at hpossible
        exact absurd ⟨d, rfl, hpossible.2,
          (List.isPrefixOf?_eq_some_iff_append_eq.mp hinside).symm⟩ (h inside)
      · rfl

theorem SeenBy.isNormal (h : SeenBy cwd directory p names) (hcwd : ∀ n ∈ cwd, IsName n)
    (hp : p.IsNormal) : IsNormal { names } where
  slashes_le := Nat.zero_le _
  isName n hn := by
    obtain ⟨d, -, -, habsolute⟩ := h
    exact isName_absolute hcwd hp n (habsolute ▸ List.mem_append_right _ hn)

/-- The file `q` is outside of the directory and given from the working directory, by the names that
lead from the directory to `p`. -/
structure Mistaken (cwd : List Text) (directory : Option Text) (p q : Path) : Prop where
  relative : q.slashes = 0
  inside : SeenBy cwd directory p q.names
  outside : ∀ names, ¬ SeenBy cwd directory q names

theorem Mistaken.display_eq (h : Mistaken cwd directory p q) (hp : p.isImpossible = false) :
    p.display cwd directory = q.display cwd directory := by
  obtain ⟨slashes, names⟩ := q
  obtain ⟨rfl, hinside, houtside⟩ := h
  rw [hinside.display_eq hp, display_of_outside houtside]

/-- Of two files that are shown alike, one is mistaken for the other. -/
theorem display_eq_iff (hcwd : ∀ n ∈ cwd, IsName n) (hp : p.IsNormal) (hq : q.IsNormal)
    (hp' : p.isImpossible = false) (hq' : q.isImpossible = false)
    (hne : absolute cwd p ≠ absolute cwd q) :
    p.display cwd directory = q.display cwd directory ↔
      Mistaken cwd directory p q ∨ Mistaken cwd directory q p := by
  constructor
  · intro h
    by_cases hpin : ∃ names, SeenBy cwd directory p names <;>
      by_cases hqin : ∃ names, SeenBy cwd directory q names
    · -- both are seen from the directory, by the same names
      obtain ⟨names, hpin⟩ := hpin
      obtain ⟨names', hqin⟩ := hqin
      rw [hpin.display_eq hp', hqin.display_eq hq',
        render_inj (hpin.isNormal hcwd hp) (hqin.isNormal hcwd hq)] at h
      obtain rfl : names = names' := congrArg Path.names h
      obtain ⟨d, rfl, -, hpd⟩ := hpin
      obtain ⟨d', hd', -, hqd⟩ := hqin
      obtain rfl := Option.some.inj hd'
      exact absurd (hpd.trans hqd.symm) hne
    · obtain ⟨names, hpin⟩ := hpin
      have hqout := not_exists.mp hqin
      rw [hpin.display_eq hp', display_of_outside hqout,
        render_inj (hpin.isNormal hcwd hp) hq] at h
      subst h
      exact .inl ⟨rfl, hpin, hqout⟩
    · obtain ⟨names, hqin⟩ := hqin
      have hpout := not_exists.mp hpin
      rw [hqin.display_eq hq', display_of_outside hpout,
        render_inj hp (hqin.isNormal hcwd hq)] at h
      subst h
      exact .inr ⟨rfl, hqin, hpout⟩
    · -- both are shown as given
      rw [display_of_outside (not_exists.mp hpin), display_of_outside (not_exists.mp hqin),
        render_inj hp hq] at h
      exact absurd (congrArg (absolute cwd) h) hne
  · rintro (h | h)
    · exact h.display_eq hp'
    · exact (h.display_eq hq').symm

end Path

/-! ### What merging keeps -/

namespace Item

theorem eraseDups_sublist (locations : List Location) :
    locations.eraseDups.Sublist locations := by
  -- what is left behind the first location is shorter, but no tail of the list
  match locations with
  | [] => exact .refl []
  | l :: rest =>
    rw [List.eraseDups_cons]
    exact ((eraseDups_sublist _).trans List.filter_sublist).cons_cons l
termination_by locations.length
decreasing_by exact Nat.lt_succ_of_le (List.length_filter_le _ _)

/-- What is added are the locations of a part of what is new, in order. -/
theorem exists_addLocations_eq {α : Type} (f : α → Location) (known new : List α) :
    ∃ kept : List α, kept.Sublist new ∧
      kept.map f = ((new.map f).removeAll (known.map f)).eraseDups ∧
      addLocations (known.map f) (new.map f) = (known ++ kept).map f := by
  obtain ⟨kept, hsublist, hkept⟩ := List.sublist_map_iff.mp
    ((eraseDups_sublist ((new.map f).removeAll (known.map f))).trans List.filter_sublist)
  exact ⟨kept, hsublist, hkept.symm, by rw [addLocations_eq, hkept, List.map_append]⟩

end Item

namespace Path

/-- A line of the file that a text names, as it is shown. -/
def located (cwd : List Text) (directory : Option Text) (s : Text × Int) : Location where
  file := (ofText s.1).display cwd directory
  line := s.2

/-- **Files are told apart by what is shown, unless one is mistaken for another.**  From every
working directory and with every source directory or none, two files that resolve to different
places are shown differently, except just when one of them is outside of the source directory and
given from the working directory by the names that lead from the source directory to the other.

So when an item is merged into another one, whatever files the two are located in, the new locations
that are not known are added, each once and in order.  One is left out only for another that is
shown alike, on the same line of the same file, or of a file such that one of the two is mistaken
for the other. -/
theorem display_ne_iff {cwd : List Text} (hcwd : ∀ n ∈ cwd, IsName n) (directory : Option Text) :
    (∀ a b : Text, (ofText a).isImpossible = false → (ofText b).isImpossible = false →
      absolute cwd (ofText a) ≠ absolute cwd (ofText b) →
        ((ofText a).display cwd directory ≠ (ofText b).display cwd directory ↔
          ¬ Mistaken cwd directory (ofText a) (ofText b) ∧
            ¬ Mistaken cwd directory (ofText b) (ofText a))) ∧
      ∀ (x y : Item) (known new : List (Text × Int)),
        (∀ s ∈ known ++ new, (ofText s.1).isImpossible = false) →
        x.locations = known.map (located cwd directory) →
        y.locations = new.map (located cwd directory) →
          ∃ kept : List (Text × Int), kept.Sublist new ∧
            kept.map (located cwd directory) = (y.locations.removeAll x.locations).eraseDups ∧
            (x.merge y).locations = (known ++ kept).map (located cwd directory) ∧
            ∀ b ∈ new, ∃ a ∈ known ++ kept, located cwd directory a = located cwd directory b ∧
              (absolute cwd (ofText a.1) = absolute cwd (ofText b.1) ∨
                Mistaken cwd directory (ofText a.1) (ofText b.1) ∨
                Mistaken cwd directory (ofText b.1) (ofText a.1)) := by
  refine ⟨fun a b ha hb hne => ?_, fun x y known new hpossible hx hy => ?_⟩
  · rw [Ne, display_eq_iff hcwd (isNormal_ofText a) (isNormal_ofText b) ha hb hne, not_or]
  obtain ⟨kept, hsublist, hkept, hmerge⟩ :=
    Item.exists_addLocations_eq (located cwd directory) known new
  rw [← hx, ← hy] at hkept hmerge
  refine ⟨kept, hsublist, hkept, hmerge, fun b hb => ?_⟩
  have hthere : located cwd directory b ∈ Item.addLocations x.locations y.locations :=
    Item.mem_addLocations.mpr (.inr (hy ▸ List.mem_map_of_mem hb))
  obtain ⟨a, ha, hab⟩ := List.mem_map.mp (hmerge ▸ hthere)
  refine ⟨a, ha, hab, or_iff_not_imp_left.mpr fun hne => ?_⟩
  have ha' := hpossible a ((hsublist.append_left known).subset ha)
  have hb' := hpossible b (List.mem_append_right known hb)
  exact (display_eq_iff hcwd (isNormal_ofText a.1) (isNormal_ofText b.1) ha' hb' hne).mp
    (congrArg Location.file hab)

/-- A file in the source directory, and one that is not there but is given from the root.  The same
line in both is kept for each, and a line of the second one is dropped when it is known, though the
path is written in another way. -/
theorem display_ne_iff_header :
    let cwd := ["home".toList]
    let directory := some "src".toList
    let header := "src/a.h".toList
    let other := "/home/a.h".toList
    let x : Item := { locations := [(header, 1), (other, 2)].map (located cwd directory) }
    let y : Item :=
      { locations := [(other, 1), ("/home//a.h".toList, 2)].map (located cwd directory) }
    (ofText header).display cwd directory ≠ (ofText other).display cwd directory ∧
      (x.merge y).locations =
        [⟨"a.h".toList, 1⟩, ⟨"/home/a.h".toList, 2⟩, ⟨"/home/a.h".toList, 1⟩] := by
  intro cwd directory header other x y
  obtain ⟨happart, hmerge⟩ := display_ne_iff (show ∀ n ∈ cwd, IsName n by decide) directory
  constructor
  · refine (happart header other rfl rfl (by decide)).mpr ⟨fun h => ?_, fun h => ?_⟩
    · -- the second file is not given from the working directory
      exact absurd h.relative (by decide)
    · -- the first one is in the source directory
      exact h.outside ["a.h".toList] ⟨"src".toList, rfl, rfl, by decide⟩
  · obtain ⟨kept, -, hkept, hlocations, -⟩ := hmerge x y [(header, 1), (other, 2)]
      [(other, 1), ("/home//a.h".toList, 2)] (by decide) rfl rfl
    rw [hlocations, List.map_append, hkept]
    decide

/-- Given from the working directory, the other file is shown as the first one, and so its location
is taken for one that is known. -/
theorem display_eq_header :
    let cwd := ["home".toList]
    let header := ofText "src/a.h".toList
    let other := ofText "a.h".toList
    absolute cwd header ≠ absolute cwd other ∧
      header.display cwd (some "src".toList) = other.display cwd (some "src".toList) ∧
      (Item.merge { locations := [⟨header.display cwd (some "src".toList), 1⟩] }
        { locations := [⟨other.display cwd (some "src".toList), 1⟩] }).locations =
          [⟨"a.h".toList, 1⟩] := by
  decide

end Path

end DocTree
