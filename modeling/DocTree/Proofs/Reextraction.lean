/-
Extracting again.

An extraction reads the files that it supports, one after the other, and may sort the top level
in the end.  Done again on its own result it changes nothing, as long as every comment gives an
item with a key, no scope has a clash, and no function becomes the cursor:

* `Extraction.sources` — the files that are read;
* `Extraction.exists_reads`, `Extraction.readFiles_of_reads` — an extraction succeeds exactly when
  these can be read;
* `Tree.sortChildren_sortChildren` — sorting twice is sorting once;
* `Extraction.extract_extract` — extracting twice is extracting once.
-/
import DocTree.Extraction
import DocTree.Proofs.PathLookup
import DocTree.Proofs.Replay

namespace DocTree

/-! ### Sorting twice -/

namespace Tree

/-- A child may stand before a named one if it has a name that is not greater, and before a
nameless one in any case. -/
theorem nameLe_iff {a b : Tree} : nameLe a b = true ↔
    ∀ y, b.item.name = some y → ∃ x, a.item.name = some x ∧ y.lex x = false := by
  unfold nameLe
  cases a.item.name <;> cases b.item.name <;> simp only [Bool.not_eq_true'] <;> simp

theorem nameLe_trans (a b c : Tree) (hab : nameLe a b = true) (hbc : nameLe b c = true) :
    nameLe a c = true := by
  rw [nameLe_iff] at *
  intro z hz
  obtain ⟨y, hy, hzy⟩ := hbc z hz
  obtain ⟨x, hx, hyx⟩ := hab y hy
  rw [Bool.eq_false_iff, ne_eq, List.lex_eq_true_iff_lt] at hzy hyx
  refine ⟨x, hx, ?_⟩
  rw [Bool.eq_false_iff, ne_eq, List.lex_eq_true_iff_lt]
  exact @List.le_trans Char _ _ _ _ x y z hyx hzy

theorem nameLe_total (a b : Tree) : (nameLe a b || nameLe b a) = true := by
  rw [Bool.or_eq_true, nameLe_iff, nameLe_iff]
  cases ha : a.item.name with
  | none => exact .inr fun x hx => absurd hx (by simp)
  | some x =>
    cases hb : b.item.name with
    | none => exact .inl fun y hy => absurd hy (by simp)
    | some y =>
      rcases @List.le_total Char _ _ x y with hle | hle
      · refine .inl fun z hz => ⟨x, rfl, ?_⟩
        obtain rfl := Option.some.inj hz
        rw [Bool.eq_false_iff, ne_eq, List.lex_eq_true_iff_lt]
        exact hle
      · refine .inr fun z hz => ⟨y, rfl, ?_⟩
        obtain rfl := Option.some.inj hz
        rw [Bool.eq_false_iff, ne_eq, List.lex_eq_true_iff_lt]
        exact hle

theorem sortChildren_sortChildren (t : Tree) : t.sortChildren.sortChildren = t.sortChildren := by
  have hsorted := List.pairwise_mergeSort nameLe_trans nameLe_total t.children
  unfold sortChildren
  simp only [List.mergeSort_of_pairwise hsorted]

end Tree

/-! ### Arrivals of a run -/

namespace Source

variable {t t' : Tree} {cursor : Cursor} {items : List Item} {L : Landings}
  {files : List SourceFile} {Ls : List Landings}

/-- What lands has arrived in the scope above it. -/
theorem Steps.arrivalsFrom_eq (h : Steps t cursor items L t') (hcursor : t.HasCursor cursor) :
    arrivalsFrom t cursor items = arrivals L := by
  induction h with
  | done => rfl
  | @step t t' cursor item x rest parent placed L hdest hplace h ih =>
    obtain ⟨node, hnode, -, hposition, -⟩ := hcursor.insert_of_place hdest hplace
    obtain ⟨i, hi⟩ := Tree.insert_position hnode x
    have hparent : placed.position.dropLast = parent := by
      rw [hposition, hi, List.dropLast_concat]
    simp only [arrivalsFrom, hdest, hplace, ih (hcursor.place hplace)]
    simp [arrivals, hparent]

/-- Reading a file, as an action of a session. -/
def action (source : SourceFile) : Action := .read source.1 source.2

theorem Reads.foldl_perform (h : Reads t files Ls t') (placed : Arrivals) :
    (files.map action).foldl Session.perform ⟨t, placed⟩ =
      ⟨t', placed ++ arrivals Ls.flatten⟩ := by
  induction h generalizing placed with
  | done t => simp [arrivals]
  | @file t t₁ t' file lines rest L Ls hsteps h ih =>
    have harrivals := hsteps.arrivalsFrom_eq fun p hp => by simp at hp
    have htree : (placeAll t file lines).tree = t₁ := hsteps.placeFrom_eq.2
    simp only [List.map_cons, List.foldl_cons, action, Session.perform, harrivals, htree]
    rw [ih]
    simp [arrivals]

end Source

/-! ### Extractions -/

namespace Extraction

variable {s : Surroundings} {settings : Settings} {t t' : Tree} {files : List Path} {p : Path}
  {Ls : List Landings}

/-- A file that is supported and can be read, as it is read. -/
def source? (s : Surroundings) (settings : Settings) (p : Path) : Option SourceFile :=
  match settings.supports p, s.read p with
  | true, .file bytes => some (p.display s.cwd settings.sourceDir, linesOf bytes)
  | _, _ => none

/-- The files that an extraction reads. -/
def sources (s : Surroundings) (settings : Settings) (files : List Path) : List SourceFile :=
  files.filterMap (source? s settings)

/-- Every file that is supported can be read. -/
def Readable (s : Surroundings) (settings : Settings) (files : List Path) : Prop :=
  ∀ p ∈ files, settings.supports p = true → (source? s settings p).isSome

/-- What reading one file comes to. -/
theorem readFile_cases (s : Surroundings) (settings : Settings) (t : Tree) (p : Path) :
    (settings.supports p = false ∧ source? s settings p = none ∧
        (readFile s settings t p).failure = none ∧ (readFile s settings t p).tree = t) ∨
      (settings.supports p = true ∧ source? s settings p = none ∧
        (readFile s settings t p).failure ≠ none) ∨
      ∃ file lines, settings.supports p = true ∧ source? s settings p = some (file, lines) ∧
        (readFile s settings t p).tree = (Source.placeAll t file lines).tree ∧
        ((readFile s settings t p).failure = none ↔
          ∃ ps, (Source.placeAll t file lines).outcome = .ok ps) := by
  unfold readFile source?
  cases hsupports : settings.supports p with
  | false => exact .inl ⟨rfl, rfl, rfl, rfl⟩
  | true =>
    cases hread : s.read p with
    | missing | directory | tooLong => exact .inr (.inl ⟨rfl, rfl, by simp⟩)
    | file bytes =>
      refine .inr (.inr ⟨_, _, rfl, rfl, ?_⟩)
      simp only [Bool.not_true, Bool.false_eq_true, if_false]
      cases (Source.placeAll t (p.display s.cwd settings.sourceDir) (linesOf bytes)).outcome <;>
        simp

theorem readFiles_cons_failure_eq_none {rest : List Path} :
    (readFiles s settings t (p :: rest)).failure = none ↔
      (readFile s settings t p).failure = none ∧
        (readFiles s settings (readFile s settings t p).tree rest).failure = none := by
  rw [readFiles]
  cases h : (readFile s settings t p).failure <;> simp [h]

theorem readFiles_cons_tree {rest : List Path} (h : (readFile s settings t p).failure = none) :
    (readFiles s settings t (p :: rest)).tree =
      (readFiles s settings (readFile s settings t p).tree rest).tree := by
  rw [readFiles]
  simp [h]

/-- An extraction that succeeds has read its files. -/
theorem exists_reads (h : (readFiles s settings t files).failure = none) :
    Readable s settings files ∧
      ∃ Ls, Source.Reads t (sources s settings files) Ls (readFiles s settings t files).tree := by
  induction files generalizing t with
  | nil => exact ⟨by simp [Readable], [], .done t⟩
  | cons p rest ih =>
    obtain ⟨hfile, hrest⟩ := readFiles_cons_failure_eq_none.mp h
    obtain ⟨hreadable, Ls, hreads⟩ := ih hrest
    rw [← readFiles_cons_tree hfile] at hreads
    rcases readFile_cases s settings t p with
      ⟨hsupports, hsource, -, htree⟩ | ⟨-, -, hfails⟩ | ⟨file, lines, -, hsource, htree, hiff⟩
    · rw [htree] at hreads
      have hsources : sources s settings (p :: rest) = sources s settings rest :=
        List.filterMap_cons_none hsource
      refine ⟨List.forall_mem_cons.mpr ⟨fun hp => ?_, hreadable⟩, Ls, hsources ▸ hreads⟩
      rw [hsupports] at hp
      exact absurd hp (by simp)
    · exact absurd hfile hfails
    · have hsources : sources s settings (p :: rest) = (file, lines) :: sources s settings rest :=
        List.filterMap_cons_some hsource
      obtain ⟨ps, hps⟩ := hiff.mp hfile
      obtain ⟨L, hsteps, -⟩ := Source.exists_steps hps
      rw [htree] at hreads
      refine ⟨List.forall_mem_cons.mpr ⟨fun _ => by simp [hsource], hreadable⟩, L :: Ls, ?_⟩
      rw [hsources]
      exact .file hsteps hreads

/-- Files that can be read and placed make an extraction succeed. -/
theorem readFiles_of_reads (hreadable : Readable s settings files)
    (h : Source.Reads t (sources s settings files) Ls t') :
    (readFiles s settings t files).failure = none ∧ (readFiles s settings t files).tree = t' := by
  induction files generalizing t Ls with
  | nil =>
    cases h
    exact ⟨rfl, rfl⟩
  | cons p rest ih =>
    obtain ⟨hp, hreadable⟩ := List.forall_mem_cons.mp hreadable
    have hgo : ∀ {t₁ Ls₁}, (readFile s settings t p).failure = none →
        (readFile s settings t p).tree = t₁ → Source.Reads t₁ (sources s settings rest) Ls₁ t' →
        (readFiles s settings t (p :: rest)).failure = none ∧
          (readFiles s settings t (p :: rest)).tree = t' := by
      rintro _ Ls₁ hfile rfl hreads
      obtain ⟨hfailure, htree⟩ := ih hreadable hreads
      exact ⟨readFiles_cons_failure_eq_none.mpr ⟨hfile, hfailure⟩,
        (readFiles_cons_tree hfile).trans htree⟩
    rcases readFile_cases s settings t p with
      ⟨-, hsource, hfile, htree⟩ | ⟨hsupports, hsource, -⟩ | ⟨file, lines, -, hsource, htree, hiff⟩
    · have hsources : sources s settings (p :: rest) = sources s settings rest :=
        List.filterMap_cons_none hsource
      rw [hsources] at h
      exact hgo hfile htree h
    · exact absurd (hp hsupports) (by simp [hsource])
    · have hsources : sources s settings (p :: rest) = (file, lines) :: sources s settings rest :=
        List.filterMap_cons_some hsource
      rw [hsources] at h
      cases h with
      | file hsteps hrest =>
        obtain ⟨houtcome, htree'⟩ := hsteps.placeFrom_eq
        exact hgo (hiff.mpr ⟨_, houtcome⟩) (htree.trans htree') hrest

/-- The tree as an extraction leaves it in the end. -/
def arranged (settings : Settings) (t : Tree) : Tree :=
  if settings.sortTopLevel then t.sortChildren else t

theorem arranged_arranged (settings : Settings) (t : Tree) :
    arranged settings (arranged settings t) = arranged settings t := by
  unfold arranged
  split
  · exact t.sortChildren_sortChildren
  · rfl

theorem extract_failure_eq_none :
    (extract s settings t files).failure = none ↔
      (readFiles s settings t files).failure = none := by
  rw [extract]
  cases h : (readFiles s settings t files).failure <;> simp [h]

theorem extract_tree (h : (readFiles s settings t files).failure = none) :
    (extract s settings t files).tree = arranged settings (readFiles s settings t files).tree := by
  rw [extract]
  simp [h, arranged]

/-- The session that reads the files of an extraction. -/
def reading (s : Surroundings) (settings : Settings) (files : List Path) : Session :=
  Session.run ((sources s settings files).map Source.action)

/-- **Extracting again changes nothing.**  Let an extraction into the empty tree succeed, where
every comment has given an item with a key, no scope has a clash, and no function has become the
cursor.  Then the same extraction into its result succeeds and leaves the tree as it was. -/
theorem extract_extract (s : Surroundings) (settings : Settings) (files : List Path)
    (hrun : (extract s settings .empty files).failure = none)
    (hkeys : ∀ arrival ∈ (reading s settings files).placed,
      (Tree.registeredKey arrival.2).isSome)
    (hclash : (reading s settings files).ClashFree)
    (hadopt : ∀ item ∈ Source.collected (sources s settings files),
      item.isFunction = true → Directive.asksToAdopt item.directives = false) :
    (extract s settings (extract s settings .empty files).tree files).failure = none ∧
      (extract s settings (extract s settings .empty files).tree files).tree =
        (extract s settings .empty files).tree := by
  have hfailure := extract_failure_eq_none.mp hrun
  rw [extract_tree hfailure]
  obtain ⟨hreadable, Ls, hreads⟩ := exists_reads hfailure
  set T := (readFiles s settings .empty files).tree
  have hplaced : (reading s settings files).placed = arrivals Ls.flatten := by
    have hsession := hreads.foldl_perform []
    exact congrArg Session.placed hsession
  rw [hplaced] at hkeys
  have hclear : Unambiguous Ls.flatten := by
    refine ⟨fun landing hmem => ?_, fun p => hplaced ▸ hclash p⟩
    exact hkeys (landing.1.dropLast, landing.2) (List.mem_map.mpr ⟨landing, hmem, rfl⟩)
  have hrecognizes : T.Recognizes Ls.flatten := by
    simpa using hreads.recognizes .empty (by simpa using hclear)
  -- the files are read into the result as they were, and what is sorted stays sorted
  obtain ⟨Ls', hagain⟩ : ∃ Ls', Source.Reads (arranged settings T) (sources s settings files)
      Ls' (arranged settings T) := by
    unfold arranged
    split
    · exact ⟨_, hreads.replay_eq hclear hadopt (.sort T) (hrecognizes.keyed_sort hclear)⟩
    · exact ⟨_, hreads.replay_eq hclear hadopt (.refl T) (hrecognizes.keyed hclear)⟩
  obtain ⟨hfailure', htree'⟩ := readFiles_of_reads hreadable hagain
  refine ⟨extract_failure_eq_none.mpr hfailure', ?_⟩
  rw [extract_tree hfailure', htree', arranged_arranged]

/-- The bytes of some lines. -/
def bytesOf (lines : List String) : List UInt8 :=
  (Text.join ['\n'] (lines.map String.toList)).map fun c => UInt8.ofNat c.toNat

/-- Three files: a namespace with a function, a class, and the definition of the function. -/
def zooDisk : Surroundings where
  cwd := []
  read := fun p =>
    if p.names = ["zoo.h".toList] then
      .file (bytesOf ["//!> A scope.", "namespace Zoo", "\x7b", "//! A function.",
        "void feed(int amount = 1);"])
    else if p.names = ["ark.h".toList] then .file (bytesOf ["//! A class.", "class Ark;"])
    else if p.names = ["zoo.cpp".toList] then
      .file (bytesOf ["//! Defined here.", "void Zoo::feed(int amount)"])
    else .missing

def zooPaths : List Path := ["zoo.h", "ark.h", "zoo.cpp"].map fun name => .ofText name.toList

/-- Reading the three files gives a tree whose top level is not sorted; extracting them twice is
extracting them once. -/
theorem extract_zoo_again :
    (extract zooDisk {} .empty zooPaths).failure = none ∧
      (reading zooDisk {} zooPaths).tree.childNames = ["Zoo".toList, "Ark".toList] ∧
      (extract zooDisk {} (extract zooDisk {} .empty zooPaths).tree zooPaths).tree =
        (extract zooDisk {} .empty zooPaths).tree := by
  have hreading : (extract zooDisk {} .empty zooPaths).failure = none ∧
      (reading zooDisk {} zooPaths).tree.childNames = ["Zoo".toList, "Ark".toList] ∧
      (∀ arrival ∈ (reading zooDisk {} zooPaths).placed, (Tree.registeredKey arrival.2).isSome) ∧
      (reading zooDisk {} zooPaths).ClashFree ∧
      ∀ item ∈ Source.collected (sources zooDisk {} zooPaths),
        item.isFunction = true → Directive.asksToAdopt item.directives = false := by
    decide +kernel
  obtain ⟨hrun, hnames, hkeys, hclash, hadopt⟩ := hreading
  exact ⟨hrun, hnames, (extract_extract zooDisk {} zooPaths hrun hkeys hclash hadopt).2⟩

end Extraction

end DocTree
