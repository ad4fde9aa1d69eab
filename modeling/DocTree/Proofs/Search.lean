/-
The search through a file, line by line.

The items of a file can be placed while its lines are still being searched: a line that starts no
comment is passed over, and at one that does, the directives are cut out of the line, the comment
and the declaration behind it are taken, and their item is placed, unless that fails.  Every turn
of this search goes ahead and stays inside of the file:

* `Source.collect_bounds` — a comment and the declaration behind it lie inside of the file;
* `Search.turn_cases` — what a turn does;
* `Search.result_turn`, `Search.blocks_turn` — the search comes to the items of `placeAll`, and to
  the blocks of the file;
* `Search.Sound.turn` — what holds of the blocks that are found;
* `Source.search_eq_placeAll` — the search ends, with the outcome of `placeAll`, and the blocks that
  it finds lie one behind the other.
-/
import DocTree.Proofs.Coverage
import DocTree.Proofs.DeclarationExtents
import Mathlib.Logic.Function.Iterate

namespace DocTree

/-! ### What is taken lies inside of the file -/

theorem Comment.length_collect_le (first : Text) (rest : List Text) :
    (Comment.collect first rest).length ≤ rest.length + 1 := by
  have hthrough : ∀ lines : List Text, (throughClose lines).length ≤ lines.length := by
    intro lines
    induction lines with
    | nil => simp [throughClose]
    | cons line rest ih =>
      rw [throughClose]
      split
      · simp
      · simpa using ih
  show (linesFrom (splitToken first).2 rest).length ≤ rest.length + 1
  unfold linesFrom
  split
  · exact hthrough _
  · exact (List.takeWhile_prefix _).length_le

theorem le_of_declarationAt? {lines : List Text} {used : Nat} {declaration : Text}
    (h : declarationAt? lines = some (used, declaration)) : used ≤ lines.length := by
  obtain ⟨first, rest, -, -, -, rfl, -⟩ := declarationAt?_eq_some.mp h
  exact Extent.length_gather_le _ _ _

namespace Source

variable {file line : Text} {rest lines : List Text} {i start : Nat}

theorem lt_length_of_drop (hdrop : lines.drop i = line :: rest) : i < lines.length := by
  by_contra hle
  rw [List.drop_eq_nil_of_le (Nat.not_lt.mp hle)] at hdrop
  exact absurd hdrop (by simp)

/-- A comment takes the line on which it starts, and neither the comment nor the declaration behind
it goes beyond the end of the file. -/
theorem collect_bounds (hdrop : lines.drop i = line :: rest)
    (hstart : Comment.startsAt line = true) :
    i < i + (Comment.collect line rest).length ∧
      i + (Comment.collect line rest).length ≤ lines.length ∧
        ∀ used declaration,
          declarationAt? (lines.drop (i + (Comment.collect line rest).length)) =
              some (used, declaration) →
            i + (Comment.collect line rest).length + used ≤ lines.length := by
  have hpos := Comment.length_collect_pos hstart rest
  have hle := Comment.length_collect_le line rest
  have hlength : lines.length - i = rest.length + 1 := by
    rw [← List.length_drop, hdrop, List.length_cons]
  refine ⟨by omega, by omega, fun used declaration hread => ?_⟩
  have hused := le_of_declarationAt? hread
  rw [List.length_drop] at hused
  omega

/-- So does a block. -/
theorem stop_blockAt (hdrop : lines.drop i = line :: rest)
    (hstart : Comment.startsAt line = true) :
    i < (blockAt i line rest).stop ∧ (blockAt i line rest).stop ≤ lines.length := by
  obtain ⟨hlt, hle, hdeclaration⟩ := collect_bounds hdrop hstart
  simp only [← List.drop_drop, hdrop] at hdeclaration
  simp only [blockAt, Block.stop, Block.commentEnd]
  split
  · exact ⟨hlt, hle⟩
  · cases hread : declarationAt? ((line :: rest).drop (Comment.collect line rest).length) with
    | none => exact ⟨hlt, hle⟩
    | some found => exact ⟨Nat.lt_add_right _ hlt, hdeclaration _ _ hread⟩

/-! ### The search -/

/-- How far the search of a file has come. -/
structure Search where
  /-- the lines, without the directives of the comments that are found -/
  lines : List Text
  /-- the index of the line that comes next -/
  index : Nat := 0
  tree : Tree
  cursor : Cursor := none
  found : List Block := []
  placed : List Position := []
  failure : Option Error := none

namespace Search

/-- Goes on behind a block, the item of which is placed. -/
def take (file : Text) (s : Search) (b : Block) : Search :=
  let s := { s with
    lines := s.lines.set s.index b.comment.firstLine
    index := b.stop
    found := s.found ++ [b] }
  match s.tree.place s.cursor (b.item file) with
  | .ok placement =>
    { s with
      tree := placement.tree
      cursor := placement.cursor
      placed := s.placed ++ [placement.position] }
  | .error e => { s with failure := some e }

/-- One turn of the search: the next line is passed over, or a block is taken from there. -/
def turn (file : Text) (s : Search) : Search :=
  match s.failure, s.lines.drop s.index with
  | none, line :: rest =>
    if Comment.startsAt line then
      let comment := Comment.collect line rest
      let lines := s.lines.set s.index comment.firstLine
      s.take file {
        start := s.index
        comment
        declaration :=
          if Directive.requestsAsIs comment.directives then none
          else declarationAt? (lines.drop (s.index + comment.length)) }
    else { s with index := s.index + 1 }
  | _, _ => s

/-- The blocks that are still to be found. -/
def ahead (s : Search) : List Block := blocksFrom s.index 0 (s.lines.drop s.index)

/-- What the search comes to: the tree, and the positions of the items or the failure. -/
def result (file : Text) (s : Search) : Tree × Except Error (List Position) :=
  match s.failure with
  | some e => (s.tree, .error e)
  | none =>
    let run := placeFrom s.tree s.cursor (s.ahead.map (Block.item file))
    (run.tree, run.outcome.map (s.placed ++ ·))

/-- The search has failed or has come to the end. -/
def Done (s : Search) : Prop := s.failure ≠ none ∨ s.lines.length ≤ s.index

variable {s : Search} {b : Block}

theorem index_take (file : Text) (s : Search) (b : Block) : (s.take file b).index = b.stop := by
  unfold take
  dsimp only
  split <;> rfl

theorem found_take (file : Text) (s : Search) (b : Block) :
    (s.take file b).found = s.found ++ [b] := by
  unfold take
  dsimp only
  split <;> rfl

theorem lines_take (file : Text) (s : Search) (b : Block) :
    (s.take file b).lines = s.lines.set s.index b.comment.firstLine := by
  unfold take
  dsimp only
  split <;> rfl

/-- What a turn does: nothing more when the search is done, or else it passes over the next line or
takes the block that starts there. -/
theorem turn_cases (file : Text) (s : Search) :
    (s.Done ∧ s.turn file = s) ∨
      ∃ line rest, s.failure = none ∧ s.lines.drop s.index = line :: rest ∧
        ((Comment.startsAt line = false ∧ s.turn file = { s with index := s.index + 1 }) ∨
          (Comment.startsAt line = true ∧
            s.turn file = s.take file (blockAt s.index line rest))) := by
  cases hfailure : s.failure with
  | some e => exact .inl ⟨.inl (by simp [hfailure]), by simp [turn, hfailure]⟩
  | none =>
    cases hdrop : s.lines.drop s.index with
    | nil =>
      exact .inl ⟨.inr (List.drop_eq_nil_iff.mp hdrop), by simp [turn, hfailure, hdrop]⟩
    | cons line rest =>
      refine .inr ⟨line, rest, rfl, rfl, ?_⟩
      cases hstart : Comment.startsAt line with
      | false => exact .inl ⟨rfl, by simp [turn, hfailure, hdrop, hstart]⟩
      | true =>
        have hpos := Comment.length_collect_pos hstart rest
        -- the line that has changed is not one of the declaration
        have hbehind : (s.lines.set s.index (Comment.collect line rest).firstLine).drop
            (s.index + (Comment.collect line rest).length) =
              (line :: rest).drop (Comment.collect line rest).length := by
          rw [List.drop_set_of_lt (by omega), ← List.drop_drop, hdrop]
        exact .inr ⟨rfl, by simp [turn, hfailure, hdrop, hstart, hbehind, blockAt]⟩

/-! ### What the search comes to -/

theorem blocksFrom_eq (start taken : Nat) (lines : List Text) :
    blocksFrom start taken lines = blocksFrom (start + taken) 0 (lines.drop taken) := by
  induction lines generalizing start taken with
  | nil => simp [blocksFrom]
  | cons line rest ih =>
    cases taken with
    | zero => rfl
    | succ taken =>
      rw [blocksFrom, ih, List.drop_succ_cons, Nat.add_assoc, Nat.add_comm 1]

theorem ahead_of_not_startsAt (hdrop : s.lines.drop s.index = line :: rest)
    (hstart : Comment.startsAt line = false) :
    s.ahead = { s with index := s.index + 1 }.ahead := by
  have hrest : s.lines.drop (s.index + 1) = rest := by rw [← List.drop_drop, hdrop]; rfl
  rw [ahead, ahead, hdrop, blocksFrom, if_neg (by simp [hstart]), hrest]

theorem ahead_of_startsAt (file : Text) (hdrop : s.lines.drop s.index = line :: rest)
    (hstart : Comment.startsAt line = true) :
    s.ahead = blockAt s.index line rest :: (s.take file (blockAt s.index line rest)).ahead := by
  obtain ⟨hlt, -⟩ := stop_blockAt hdrop hstart
  obtain ⟨k, hk⟩ := Nat.exists_eq_add_of_le (Nat.succ_le_of_lt hlt)
  have hrest : s.lines.drop (s.index + 1) = rest := by rw [← List.drop_drop, hdrop]; rfl
  rw [ahead, hdrop, blocksFrom, if_pos hstart, blocksFrom_eq, ahead, index_take, lines_take,
    List.drop_set_of_lt hlt, hk, ← List.drop_drop, Nat.succ_eq_add_one, hrest,
    show s.index + 1 + k - s.index - 1 = k by omega]

/-- A turn finds the next block, if any. -/
theorem blocks_turn (file : Text) (s : Search) :
    (s.turn file).found ++ (s.turn file).ahead = s.found ++ s.ahead := by
  obtain ⟨-, hturn⟩ | ⟨line, rest, -, hdrop, ⟨hstart, hturn⟩ | ⟨hstart, hturn⟩⟩ :=
    turn_cases file s
  · rw [hturn]
  · rw [hturn, ahead_of_not_startsAt hdrop hstart]
  · rw [hturn, ahead_of_startsAt file hdrop hstart, found_take, List.append_assoc,
      List.singleton_append]

/-- A turn does not change what the search comes to. -/
theorem result_turn (file : Text) (s : Search) : (s.turn file).result file = s.result file := by
  obtain ⟨-, hturn⟩ | ⟨line, rest, hopen, hdrop, ⟨hstart, hturn⟩ | ⟨hstart, hturn⟩⟩ :=
    turn_cases file s
  · rw [hturn]
  · rw [hturn, result, result, ← ahead_of_not_startsAt hdrop hstart]
  · have hahead := ahead_of_startsAt file hdrop hstart
    rw [hturn]
    generalize blockAt s.index line rest = b at hahead
    rw [result, result, hopen, hahead, List.map_cons, placeFrom]
    cases hplace : s.tree.place s.cursor (b.item file) with
    | error e => simp [take, hplace, Except.map]
    | ok placement =>
      simp only [take, hplace, hopen]
      generalize placeFrom placement.tree placement.cursor _ = run
      cases run.outcome <;> simp [Except.map]

/-! ### What holds of the blocks that are found -/

/-- The search keeps to the lines of the file, and its blocks lie one behind the other. -/
structure Sound (lines : List Text) (s : Search) : Prop where
  length_eq : s.lines.length = lines.length
  drop_eq : s.lines.drop s.index = lines.drop s.index
  index_le : s.index ≤ lines.length
  ordered : s.found.Pairwise fun a b => a.stop ≤ b.start
  stop_le : ∀ b ∈ s.found, b.stop ≤ s.index
  isBlock : ∀ b ∈ s.found, ∃ line rest, lines.drop b.start = line :: rest ∧
    Comment.startsAt line = true ∧ b = blockAt b.start line rest

theorem Sound.turn (h : s.Sound lines) (file : Text) : (s.turn file).Sound lines := by
  obtain ⟨-, hturn⟩ | ⟨line, rest, -, hdrop, ⟨hstart, hturn⟩ | ⟨hstart, hturn⟩⟩ :=
    turn_cases file s
  · rwa [hturn]
  · have hlt : s.index < lines.length := by
      rw [← h.length_eq]
      exact lt_length_of_drop hdrop
    rw [hturn]
    exact {
      length_eq := h.length_eq
      drop_eq := by
        show s.lines.drop (s.index + 1) = lines.drop (s.index + 1)
        rw [← List.drop_drop, h.drop_eq, List.drop_drop]
      index_le := hlt
      ordered := h.ordered
      stop_le := fun b hb => Nat.le_succ_of_le (h.stop_le b hb)
      isBlock := h.isBlock }
  · have hdrop' := h.drop_eq ▸ hdrop
    obtain ⟨hlt, hle⟩ := stop_blockAt hdrop' hstart
    rw [hturn]
    refine ⟨?_, ?_, ?_, ?_, ?_, ?_⟩
    · rw [lines_take, List.length_set, h.length_eq]
    · rw [lines_take, index_take, List.drop_set_of_lt hlt]
      obtain ⟨k, hk⟩ := Nat.exists_eq_add_of_lt hlt
      rw [hk, Nat.add_assoc, ← List.drop_drop, h.drop_eq, List.drop_drop]
    · rwa [index_take]
    · rw [found_take, List.pairwise_append]
      refine ⟨h.ordered, List.pairwise_singleton .., fun a ha b hb => ?_⟩
      obtain rfl := List.mem_singleton.mp hb
      exact h.stop_le a ha
    · rw [found_take, index_take]
      intro b hb
      rcases List.mem_append.mp hb with hb | hb
      · exact Nat.le_trans (h.stop_le b hb) (Nat.le_of_lt hlt)
      · exact (List.mem_singleton.mp hb ▸ Nat.le_refl _)
    · rw [found_take]
      intro b hb
      rcases List.mem_append.mp hb with hb | hb
      · exact h.isBlock b hb
      · obtain rfl := List.mem_singleton.mp hb
        exact ⟨line, rest, hdrop', hstart, rfl⟩

/-- Unless the search is done, a turn goes ahead, and stays inside of the file. -/
theorem index_turn (file : Text) (h : ¬ s.Done) :
    s.index < (s.turn file).index ∧ (s.turn file).index ≤ s.lines.length := by
  obtain ⟨hdone, -⟩ | ⟨line, rest, -, hdrop, ⟨hstart, hturn⟩ | ⟨hstart, hturn⟩⟩ :=
    turn_cases file s
  · exact absurd hdone h
  · rw [hturn]
    exact ⟨Nat.lt_succ_self _, lt_length_of_drop hdrop⟩
  · rw [hturn, index_take]
    exact stop_blockAt hdrop hstart

theorem done_or_le_index (file : Text) (s : Search) (n : Nat) :
    ((turn file)^[n] s).Done ∨ n ≤ ((turn file)^[n] s).index := by
  induction n with
  | zero => exact .inr (Nat.zero_le _)
  | succ n ih =>
    rw [Function.iterate_succ_apply']
    obtain ⟨hdone, hturn⟩ | ⟨line, rest, hopen, hdrop, -⟩ := turn_cases file ((turn file)^[n] s)
    · exact .inl (by rwa [hturn])
    · have hundone : ¬ ((turn file)^[n] s).Done := by
        rintro (hfailure | hle)
        · exact hfailure hopen
        · exact absurd (lt_length_of_drop hdrop) (Nat.not_lt.mpr hle)
      have hle := ih.resolve_left hundone
      have hlt := (index_turn file hundone).1
      exact .inr (by omega)

/-- What a turn leaves as it is, a number of turns leave as it is. -/
theorem iterate_turn_eq {α : Type} {f : Search → α} (hf : ∀ s, f (turn file s) = f s) (n : Nat)
    (s : Search) : f ((turn file)^[n] s) = f s := by
  induction n with
  | zero => rfl
  | succ n ih => rw [Function.iterate_succ_apply', hf, ih]

theorem Sound.iterate_turn (h : s.Sound lines) (file : Text) (n : Nat) :
    ((Search.turn file)^[n] s).Sound lines := by
  induction n with
  | zero => exact h
  | succ n ih =>
    rw [Function.iterate_succ_apply']
    exact ih.turn file

theorem sound_start (t : Tree) (lines : List Text) : Sound lines { lines, tree := t } where
  length_eq := rfl
  drop_eq := rfl
  index_le := Nat.zero_le _
  ordered := .nil
  stop_le := by simp
  isBlock := by simp

/-- The blocks that are found lie inside of the file, and start where a comment does. -/
theorem Sound.bounds (h : s.Sound lines) (hb : b ∈ s.found) :
    (∃ line, lines[b.start]? = some line ∧ Comment.startsAt line = true) ∧
      b.start < b.stop ∧ b.stop ≤ lines.length := by
  obtain ⟨line, rest, hdrop, hstart, hblock⟩ := h.isBlock b hb
  refine ⟨⟨line, ?_, hstart⟩, ?_⟩
  · rw [← List.head?_drop, hdrop, List.head?_cons]
  · rw [hblock]
    exact stop_blockAt hdrop hstart

theorem result_start (t : Tree) (file : Text) (lines : List Text) :
    result file { lines, tree := t } =
      ((placeAll t file lines).tree, (placeAll t file lines).outcome) := by
  simp only [result, ahead, List.drop_zero, placeAll, scan_eq_map, blocks]
  cases (placeFrom t none _).outcome <;> rfl

theorem result_of_done (file : Text) (h : s.Done) :
    s.result file = (s.tree, s.failure.elim (.ok s.placed) .error) := by
  rw [result]
  cases hfailure : s.failure with
  | some e => rfl
  | none =>
    have hle := h.resolve_left fun h => h hfailure
    simp [ahead, List.drop_eq_nil_of_le hle, blocksFrom, placeFrom, Except.map]

end Search

/-- **The search through a file ends, and its blocks lie one behind the other.**  At a line that
starts a comment, the comment takes at least this line, and neither it nor the declaration behind it
goes beyond the end of the file.  So every turn of a search that is not done goes ahead, inside of
the file, whether or not an item can be placed.  From every tree, the search of a file is done after
as many turns as the file has lines, with the tree and the outcome of `placeAll`; the blocks it has
found are the first ones of the file, all of them unless one fails; each is shown at the line on
which it starts, which starts a comment in the file as it was given, and behind its last line, at
the earliest, the next one starts. -/
theorem search_eq_placeAll :
    (∀ (lines : List Text) (i : Nat) (line : Text) (rest : List Text),
      lines.drop i = line :: rest → Comment.startsAt line = true →
        let comment := Comment.collect line rest
        i < i + comment.length ∧ i + comment.length ≤ lines.length ∧
          ∀ used declaration,
            declarationAt? ((lines.set i comment.firstLine).drop (i + comment.length)) =
              some (used, declaration) → i + comment.length + used ≤ lines.length) ∧
      (∀ (file : Text) (s : Search), s.failure = none → s.index < s.lines.length →
        s.index < (s.turn file).index ∧ (s.turn file).index ≤ s.lines.length) ∧
      ∀ (t : Tree) (file : Text) (lines : List Text),
        let s := (Search.turn file)^[lines.length] { lines, tree := t }
        (s.failure = none → s.index = lines.length) ∧
          (placeAll t file lines).tree = s.tree ∧
          (placeAll t file lines).outcome = s.failure.elim (.ok s.placed) .error ∧
          s.found <+: blocks lines ∧ (s.failure = none → s.found = blocks lines) ∧
          (s.found.Pairwise fun a b => a.start < b.start ∧ a.stop ≤ b.start) ∧
          ∀ b ∈ s.found,
            (b.item file).locations = [⟨file, (b.start + 1 : Nat)⟩] ∧
              (∃ line, lines[b.start]? = some line ∧ Comment.startsAt line = true) ∧
              b.start < b.stop ∧ b.stop ≤ lines.length := by
  refine ⟨fun lines i line rest hdrop hstart => ?_, fun file s hopen hlt => ?_,
    fun t file lines => ?_⟩
  · have hbounds := collect_bounds hdrop hstart
    rwa [← List.drop_set_of_lt hbounds.1] at hbounds
  · exact Search.index_turn file (by rintro (h | h); exacts [h hopen, by omega])
  · have hsound := (Search.sound_start t lines).iterate_turn file lines.length
    have hresult := Search.iterate_turn_eq (Search.result_turn file) lines.length
      { lines, tree := t }
    have hblocks := Search.iterate_turn_eq (f := fun s => s.found ++ s.ahead)
      (Search.blocks_turn file) lines.length { lines, tree := t }
    have hdone := Search.done_or_le_index file { lines, tree := t } lines.length
    generalize (Search.turn file)^[lines.length] { lines, tree := t } = s at *
    replace hdone : s.Done := hdone.elim id fun h => .inr (by rwa [hsound.length_eq])
    have hindex : s.failure = none → s.index = lines.length := fun hopen =>
      Nat.le_antisymm hsound.index_le
        (hsound.length_eq ▸ hdone.resolve_left fun h => h hopen)
    rw [Search.result_of_done file hdone, Search.result_start] at hresult
    obtain ⟨htree, houtcome⟩ := Prod.mk.inj hresult
    have hfile : s.found ++ s.ahead = blocks lines := hblocks
    refine ⟨hindex, htree.symm, houtcome.symm, ⟨_, hfile⟩, fun hopen => ?_, ?_, fun b hb =>
      ⟨b.locations_item file, hsound.bounds hb⟩⟩
    · have hend : s.ahead = [] := by
        rw [Search.ahead, hsound.drop_eq, hindex hopen, List.drop_length, blocksFrom]
      rw [← hfile, hend, List.append_nil]
    · exact hsound.ordered.imp_of_mem fun ha _ hle =>
        ⟨Nat.lt_of_lt_of_le (hsound.bounds ha).2.1 hle, hle⟩

/-- In the file with two classes, the comment on the first one ends behind two lines; the first turn
goes on behind the class, and in the end two blocks are found. -/
theorem search_eq_placeAll_twoClasses :
    (Comment.collect "//! One,".toList (twoClasses.drop 1)).length = 2 ∧
      0 + 2 + 1 ≤ twoClasses.length ∧
      0 < (Search.turn "a.h".toList { lines := twoClasses, tree := .empty }).index ∧
      ∃ s, (Search.turn "a.h".toList)^[twoClasses.length]
          { lines := twoClasses, tree := .empty } = s ∧
        s.failure = none ∧ s.index = 5 ∧ s.placed = [[0], [1]] ∧
          s.found.map Block.start = [0, 3] := by
  obtain ⟨htaken, hturn, hrun⟩ := search_eq_placeAll
  have hcomment : (Comment.collect "//! One,".toList (twoClasses.drop 1)).length = 2 := by
    decide +kernel
  refine ⟨hcomment, ?_, ?_, ?_⟩
  · obtain ⟨-, -, hdeclaration⟩ := htaken twoClasses 0 "//! One,".toList (twoClasses.drop 1) rfl rfl
    rw [hcomment] at hdeclaration
    exact hdeclaration 1 "class Foo".toList (by decide +kernel)
  · exact (hturn "a.h".toList { lines := twoClasses, tree := .empty } rfl (by decide)).1
  · obtain ⟨hend, -, houtcome, -, hfound, -⟩ := hrun .empty "a.h".toList twoClasses
    generalize hs : (Search.turn "a.h".toList)^[twoClasses.length]
      { lines := twoClasses, tree := .empty } = s at *
    have hplaced : (placeAll .empty "a.h".toList twoClasses).outcome.toOption =
        some [[0], [1]] := by decide +kernel
    have hstarts : (blocks twoClasses).map Block.start = [0, 3] := by decide +kernel
    rw [houtcome] at hplaced
    cases hopen : s.failure with
    | some e => simp [hopen, Except.toOption] at hplaced
    | none =>
      refine ⟨s, rfl, hopen, hend hopen, ?_, by rw [hfound hopen, hstarts]⟩
      simpa [hopen, Except.toOption] using hplaced

end Source

end DocTree
