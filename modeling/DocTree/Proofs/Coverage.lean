/-
Which comments are found.

A file is read block by block: a comment, and the lines of the declaration behind it.  A comment
that starts inside of a block is not found:

* `Source.blocks` — the blocks of a file, from which its items are made (`Source.scan_eq_map`);
* `Source.exists_block_from` — every line that starts a comment lies in a block;
* `Comment.unclosed_of_lt`, `Extent.lt_length_gather_iff` — a comment goes on until it is closed,
  and a declaration as long as there is no terminator;
* `Source.startsAt_cases` — so a line that starts a comment has its own node, unless an earlier
  comment goes on there, or an earlier declaration that has not ended.
-/
import DocTree.Proofs.Locations
import DocTree.Proofs.Recognition
import Mathlib.Data.List.TakeWhile

namespace DocTree

/-! ### Lines of a comment -/

namespace Comment

variable {line : Text}

theorem opened?_marker_append (form : Form) (rest : Text) :
    opened? (form.marker ++ rest) = some (form, rest) := by
  cases form <;> rfl

theorem opened?_eq_some {form : Form} {more : Text} :
    opened? line = some (form, more) ↔ line = form.marker ++ more := by
  constructor
  · intro h
    unfold opened? at h
    split at h
    · obtain ⟨rfl, rfl⟩ := Prod.mk.inj (Option.some.inj h)
      exact (List.isPrefixOf?_eq_some_iff_append_eq.mp ‹_›).symm
    · obtain ⟨more', hmore, heq⟩ := Option.map_eq_some_iff.mp h
      obtain ⟨rfl, rfl⟩ := Prod.mk.inj heq
      exact (List.isPrefixOf?_eq_some_iff_append_eq.mp hmore).symm
  · rintro rfl
    exact opened?_marker_append form more

theorem isSome_opened?_iff : (opened? line).isSome = true ↔ ∃ form, Form.marker form <+: line := by
  rw [Option.isSome_iff_exists]
  constructor
  · rintro ⟨⟨form, more⟩, h⟩
    exact ⟨form, more, (opened?_eq_some.mp h).symm⟩
  · rintro ⟨form, more, rfl⟩
    exact ⟨_, opened?_marker_append form more⟩

/-- A line that starts a comment is split behind its marker, which only blanks precede. -/
theorem exists_splitAtMarker (h : startsAt line = true) :
    ∃ (form : Form) (before after : Text), splitAtMarker line = some (before, after) ∧
      ∀ more, Text.trimStart (before ++ more) = form.marker ++ more := by
  induction line with
  | nil => exact absurd h (by decide)
  | cons c rest ih =>
    cases hopened : opened? (c :: rest) with
    | some found =>
      obtain ⟨form, after⟩ := found
      refine ⟨form, form.marker, after, by simp [splitAtMarker, hopened], fun more => ?_⟩
      cases form <;> rfl
    | none =>
      -- the marker stands further behind, so the line starts with a blank
      have hblank : isBlank c = true := by
        by_contra hne
        rw [startsAt, Text.trimStart, List.dropWhile_cons_of_neg hne, hopened] at h
        exact absurd h (by simp)
      rw [startsAt, Text.trimStart, List.dropWhile_cons_of_pos hblank] at h
      obtain ⟨form, before, after, hsplit, htrim⟩ := ih h
      refine ⟨form, c :: before, after, by simp [splitAtMarker, hopened, hsplit], fun more => ?_⟩
      rw [List.cons_append, Text.trimStart, List.dropWhile_cons_of_pos hblank]
      exact htrim more

theorem linesFrom_ne_nil {first more : Text} {form : Form}
    (h : first.trimStart = form.marker ++ more) (rest : List Text) : linesFrom first rest ≠ [] := by
  rw [linesFrom, h, opened?_marker_append]
  cases form with
  | line =>
    have hcomment : isLineComment first = true := by
      rw [isLineComment, h]
      rfl
    simp [hcomment]
  | block =>
    simp only [throughClose]
    split <;> simp

/-- A comment takes at least the line on which it starts. -/
theorem length_collect_pos (h : startsAt line = true) (rest : List Text) :
    0 < (collect line rest).length := by
  obtain ⟨form, before, after, hsplit, htrim⟩ := exists_splitAtMarker h
  obtain ⟨more, hfirst⟩ : ∃ more, Text.trimStart (splitToken line).2 = form.marker ++ more := by
    rw [splitToken, hsplit]
    exact ⟨_, htrim _⟩
  exact List.length_pos_iff.mpr (linesFrom_ne_nil hfirst rest)

/-- None of the lines ends the comment that starts with the first of them. -/
def Unclosed : List Text → Prop
  | [] => True
  | first :: rest =>
    match opened? first.trimStart with
    | some (.block, _) => ∀ line ∈ first :: rest, line.has "*/".toList = false
    | _ => ∀ line ∈ first :: rest, isLineComment line = true

theorem has_close_eq_false_of_lt {lines : List Text} {k : Nat}
    (h : k < (throughClose lines).length) :
    ∀ line ∈ lines.take k, line.has "*/".toList = false := by
  induction lines generalizing k with
  | nil => exact absurd h (by simp [throughClose])
  | cons line rest ih =>
    cases k with
    | zero => simp
    | succ k =>
      rw [throughClose] at h
      split at h
      · simp at h
      · rename_i hopen
        rw [List.take_succ_cons, List.forall_mem_cons]
        exact ⟨Bool.eq_false_iff.mpr hopen, ih (by simpa using h)⟩

theorem isLineComment_of_lt {lines : List Text} {k : Nat}
    (h : k < (lines.takeWhile isLineComment).length) :
    ∀ line ∈ lines.take k, isLineComment line = true := by
  intro line hline
  obtain ⟨rest, hrest⟩ := List.takeWhile_prefix isLineComment (l := lines)
  rw [← hrest, List.take_append_of_le_length (Nat.le_of_lt h)] at hline
  exact List.mem_takeWhile_imp (List.mem_of_mem_take hline)

/-- A comment takes a line behind its first one only if no line before has ended it. -/
theorem unclosed_of_lt {first : Text} {rest : List Text} {k : Nat}
    (h : k + 1 < (linesFrom first rest).length) : Unclosed (first :: rest.take k) := by
  rw [Unclosed, ← List.take_succ_cons]
  rw [linesFrom] at h
  rcases hopened : opened? first.trimStart with _ | ⟨_ | _, after⟩ <;> rw [hopened] at h
  · exact isLineComment_of_lt h
  · exact isLineComment_of_lt h
  · exact has_close_eq_false_of_lt h

end Comment

/-! ### Lines of a declaration -/

namespace Extent

variable {indent : Nat} {s : State} {lines : List Text} {k : Nat}

/-- What carries over behind some lines of a declaration, if none of them holds its
terminator. -/
def stateAfter (indent : Nat) : State → List Text → Option State
  | s, [] => some s
  | s, line :: rest =>
    match readLine s (removeIndent indent line) with
    | .ended _ => none
    | .continues s' => stateAfter indent s' rest

/-- A declaration takes a line exactly when no line before holds its terminator. -/
theorem lt_length_gather_iff :
    k < (gather indent s lines).length ↔
      k < lines.length ∧ (stateAfter indent s (lines.take k)).isSome := by
  induction lines generalizing s k with
  | nil => simp [gather]
  | cons line rest ih =>
    cases k with
    | zero =>
      rw [gather]
      split <;> simp [stateAfter]
    | succ k =>
      rw [gather, List.take_succ_cons, stateAfter]
      cases readLine s (removeIndent indent line) with
      | ended before => simp
      | continues s' => simp [ih]

end Extent

/-- None of the lines of a declaration holds its terminator. -/
def Unterminated : List Text → Prop
  | [] => True
  | first :: rest => (Extent.stateAfter first.indent.length {} (first :: rest)).isSome

/-- A declaration is there unless the first line is blank or starts a comment, and it is made of
the lines that are collected from there. -/
theorem declarationAt?_eq_some {lines : List Text} {used : Nat} {declaration : Text} :
    declarationAt? lines = some (used, declaration) ↔
      ∃ first rest, lines = first :: rest ∧ first.trim ≠ [] ∧ Comment.startsAt first = false ∧
        used = (Extent.gather first.indent.length {} lines).length ∧
        declaration =
          (Text.join ['\n'] (Extent.gather first.indent.length {} lines)).trimEnd := by
  cases lines with
  | nil => simp [declarationAt?]
  | cons first rest =>
    rw [declarationAt?]
    constructor
    · intro h
      split at h
      · exact absurd h (by simp)
      · rename_i hfirst
        rw [Bool.not_eq_true, Bool.or_eq_false_iff, List.isEmpty_eq_false_iff] at hfirst
        obtain ⟨rfl, rfl⟩ := Prod.mk.inj (Option.some.inj h)
        exact ⟨first, rest, rfl, hfirst.1, hfirst.2, rfl, rfl⟩
    · rintro ⟨first', rest', heq, hne, hstart, rfl, rfl⟩
      obtain ⟨rfl, rfl⟩ := List.cons.inj heq
      rw [if_neg (by simp [hne, hstart])]

/-- Behind its first line, a declaration goes on through a comment as long as it has not ended. -/
theorem unterminated_of_declarationAt? {lines : List Text} {used k : Nat} {declaration line : Text}
    (h : declarationAt? lines = some (used, declaration)) (hk : k < used)
    (hline : lines[k]? = some line) (hstart : Comment.startsAt line = true) :
    0 < k ∧ Unterminated (lines.take k) := by
  obtain ⟨first, rest, rfl, -, hfirst, rfl, -⟩ := declarationAt?_eq_some.mp h
  cases k with
  | zero =>
    obtain rfl := Option.some.inj hline
    exact absurd hstart (by simp [hfirst])
  | succ k => exact ⟨Nat.succ_pos k, (Extent.lt_length_gather_iff.mp hk).2⟩

/-! ### Blocks -/

namespace Source

variable {line : Text} {lines : List Text} {taken i : Nat}

/-- A comment with the declaration behind it. -/
structure Block where
  /-- the index of the line on which the comment starts -/
  start : Nat
  comment : Comment.Collected
  /-- the number of lines that the declaration takes, and its text -/
  declaration : Option (Nat × Text)

namespace Block

/-- The index of the line behind the comment. -/
def commentEnd (b : Block) : Nat := b.start + b.comment.length

/-- The index of the line behind the block. -/
def stop (b : Block) : Nat := b.commentEnd + (b.declaration.map Prod.fst).getD 0

/-- The item of a block. -/
def item (file : Text) (b : Block) : Item :=
  let item := itemOf b.comment ⟨file, (b.start + 1 : Nat)⟩
  match b.declaration with
  | none => item
  | some (_, declaration) => item.declare declaration

end Block

/-- The block whose comment starts at the line `first`. -/
def blockAt (start : Nat) (first : Text) (rest : List Text) : Block :=
  let comment := Comment.collect first rest
  { start
    comment
    declaration :=
      if Directive.requestsAsIs comment.directives then none
      else declarationAt? ((first :: rest).drop comment.length) }

/-- The blocks in some lines, the first of which has the index `start`, behind the first `taken` of
them. -/
def blocksFrom : Nat → Nat → List Text → List Block
  | _, _, [] => []
  | start, taken + 1, _ :: rest => blocksFrom (start + 1) taken rest
  | start, 0, line :: rest =>
    if Comment.startsAt line then
      blockAt start line rest ::
        blocksFrom (start + 1) ((blockAt start line rest).stop - start - 1) rest
    else blocksFrom (start + 1) 0 rest

/-- The blocks of a file, in order. -/
def blocks (lines : List Text) : List Block := blocksFrom 0 0 lines

theorem itemAt_eq (file : Text) (start : Nat) (first : Text) (rest : List Text) :
    itemAt ⟨file, (start + 1 : Nat)⟩ first rest =
      ((blockAt start first rest).item file, (blockAt start first rest).stop - start) := by
  have hflag : (itemOf (Comment.collect first rest) ⟨file, (start + 1 : Nat)⟩).asIs =
      Directive.requestsAsIs (Comment.collect first rest).directives := rfl
  simp only [itemAt, hflag, blockAt, Block.item, Block.stop, Block.commentEnd]
  by_cases hasIs : Directive.requestsAsIs (Comment.collect first rest).directives = true
  · simp [hasIs]
  · cases declarationAt? ((first :: rest).drop (Comment.collect first rest).length) <;>
      simp [hasIs, Nat.add_assoc]

theorem scanFrom_eq_map (file : Text) (start taken : Nat) (lines : List Text) :
    scanFrom file (start + 1) taken lines =
      (blocksFrom start taken lines).map (Block.item file) := by
  fun_induction blocksFrom start taken lines with
  | case1 => simp [scanFrom]
  | case2 start taken line rest ih => rw [scanFrom, ih]
  | case3 start line rest hstart ih =>
    rw [scanFrom, if_pos hstart, itemAt_eq, List.map_cons, ← ih]
  | case4 start line rest hstart ih => rw [scanFrom, if_neg hstart, ih]

/-- The items of a file are those of its blocks. -/
theorem scan_eq_map (file : Text) (lines : List Text) :
    scan file lines = (blocks lines).map (Block.item file) :=
  scanFrom_eq_map file 0 0 lines

/-- Every line that starts a comment lies in a block. -/
theorem exists_block_from (start : Nat) (hline : lines[i]? = some line)
    (hstart : Comment.startsAt line = true) (htaken : taken ≤ i) :
    ∃ b ∈ blocksFrom start taken lines, ∃ k first rest, lines.drop k = first :: rest ∧
      b = blockAt (start + k) first rest ∧ k ≤ i ∧ start + i < b.stop := by
  -- one line further, one more line before
  have hcons : ∀ {start i : Nat} {line : Text} {more : List Text} {bs : List Block},
      (∃ b ∈ bs, ∃ k first rest, more.drop k = first :: rest ∧
        b = blockAt (start + 1 + k) first rest ∧ k ≤ i ∧ start + 1 + i < b.stop) →
      ∃ b ∈ bs, ∃ k first rest, (line :: more).drop k = first :: rest ∧
        b = blockAt (start + k) first rest ∧ k ≤ i + 1 ∧ start + (i + 1) < b.stop := by
    rintro start i line more bs ⟨b, hb, k, first, rest, hdrop, rfl, hk, hstop⟩
    have hmoved : ∀ n, start + 1 + n = start + (n + 1) := fun n => by omega
    rw [hmoved] at hb
    rw [hmoved, hmoved] at hstop
    exact ⟨_, hb, k + 1, first, rest, hdrop, rfl, by omega, hstop⟩
  fun_induction blocksFrom start taken lines generalizing i with
  | case1 => exact absurd hline (by simp)
  | case2 start taken first rest ih =>
    obtain ⟨i, rfl⟩ := Nat.exists_eq_add_of_le' (Nat.le_trans (Nat.le_add_left 1 taken) htaken)
    exact hcons (ih hline (by omega))
  | case3 start first rest hfirst ih =>
    by_cases hstop : start + i < (blockAt start first rest).stop
    · exact ⟨_, List.mem_cons_self .., 0, first, rest, rfl, rfl, Nat.zero_le i, hstop⟩
    · have hpos := Comment.length_collect_pos hfirst rest
      have hle : start + (Comment.collect first rest).length ≤ (blockAt start first rest).stop :=
        Nat.le_add_right _ _
      obtain ⟨i, rfl⟩ := Nat.exists_eq_add_of_le' (show 1 ≤ i by omega)
      obtain ⟨b, hb, hcovers⟩ := ih hline (by omega)
      exact hcons ⟨b, List.mem_cons_of_mem _ hb, hcovers⟩
  | case4 start first rest hfirst ih =>
    cases i with
    | zero =>
      obtain rfl := Option.some.inj hline
      exact absurd hstart hfirst
    | succ i => exact hcons (ih hline (Nat.zero_le i))

/-- A line of a block that starts a comment is its first one, one of its comment or one of its
declaration, which have not ended there. -/
theorem blockAt_cases {k : Nat} {first : Text} {rest : List Text}
    (hdrop : lines.drop k = first :: rest) (hline : lines[i]? = some line)
    (hstart : Comment.startsAt line = true) (hk : k ≤ i) (hstop : i < (blockAt k first rest).stop) :
    i = k ∨
      (k < i ∧ i < (blockAt k first rest).commentEnd ∧
        Comment.Unclosed ((blockAt k first rest).comment.firstLine ::
          (lines.take i).drop (k + 1))) ∨
      ((blockAt k first rest).commentEnd < i ∧
        Unterminated ((lines.take i).drop (blockAt k first rest).commentEnd)) := by
  rcases Nat.eq_or_lt_of_le hk with rfl | hlt
  · exact .inl rfl
  by_cases hcomment : i < (blockAt k first rest).commentEnd
  · refine .inr (.inl ⟨hlt, hcomment, ?_⟩)
    have hrest : lines.drop (k + 1) = rest := by
      rw [← List.drop_drop, hdrop]
      rfl
    rw [List.drop_take, hrest]
    refine Comment.unclosed_of_lt ?_
    have hlength : i < k + (Comment.collect first rest).length := hcomment
    show i - (k + 1) + 1 < (Comment.collect first rest).length
    omega
  refine .inr (.inr ?_)
  have hle := Nat.not_lt.mp hcomment
  rw [Block.stop] at hstop
  cases hdeclaration : (blockAt k first rest).declaration with
  | none =>
    rw [hdeclaration] at hstop
    exact absurd hstop hcomment
  | some found =>
    obtain ⟨used, declaration⟩ := found
    rw [hdeclaration] at hstop
    have hread : declarationAt? (lines.drop (blockAt k first rest).commentEnd) =
        some (used, declaration) := by
      simp only [blockAt] at hdeclaration
      split at hdeclaration
      · exact absurd hdeclaration (by simp)
      · rw [Block.commentEnd, ← List.drop_drop, blockAt, hdrop]
        exact hdeclaration
    have hrest : (lines.drop (blockAt k first rest).commentEnd)[
        i - (blockAt k first rest).commentEnd]? = some line := by
      rw [List.getElem?_drop, Nat.add_sub_cancel' hle, hline]
    have hused : i - (blockAt k first rest).commentEnd < used := by
      simp only [Option.map_some, Option.getD_some] at hstop
      omega
    obtain ⟨hpos, hopen⟩ := unterminated_of_declarationAt? hread hused hrest hstart
    rw [List.drop_take]
    exact ⟨by omega, hopen⟩

end Source

/-! ### Locations in the tree -/

namespace Tree

variable {t node : Tree} {parent q : Position} {x : Item} {l : Location}

/-- The node at a position carries the location. -/
def Shows (t : Tree) (q : Position) (l : Location) : Prop :=
  ∃ y, t.item? q = some y ∧ l ∈ y.locations

/-- Locations stay. -/
theorem Shows.insert (h : t.Shows q l) (parent : Position) (x : Item) :
    (t.insert parent x).1.Shows q l := by
  obtain ⟨y, hy, hl⟩ := h
  cases hparent : t.get? parent with
  | none =>
    rw [Tree.insert, hparent]
    exact ⟨y, hy, hl⟩
  | some node =>
    rw [Shows, item?_insert hparent, hy]
    split
    · exact ⟨_, rfl, Item.mem_addLocations.mpr (.inl hl)⟩
    · exact ⟨y, rfl, hl⟩

/-- An item lands with its locations. -/
theorem shows_insert (hparent : t.get? parent = some node) (hl : l ∈ x.locations) :
    (t.insert parent x).1.Shows (t.insert parent x).2 l := by
  rw [Shows, item?_insert hparent, if_pos rfl]
  refine ⟨_, rfl, ?_⟩
  cases t.item? (t.insert parent x).2 with
  | none => exact hl
  | some y => exact Item.mem_addLocations.mpr (.inr hl)

end Tree

namespace Source

open DocTree.Tree

variable {t t' : Tree} {cursor : Cursor} {items : List Item} {L : Landings} {lines : List Text}

/-- After a run over items, what has landed is shown where it has landed. -/
theorem Steps.shows (h : Steps t cursor items L t') (hcursor : t.HasCursor cursor) :
    ∀ landing ∈ L, ∀ l ∈ landing.2.locations, t'.Shows landing.1 l := by
  induction h with
  | done => simp
  | @step t t' cursor item x rest parent placed L hdest hplace h ih =>
    obtain ⟨node, hnode, htree, hposition, -⟩ := hcursor.insert_of_place hdest hplace
    intro landing hmem l hl
    rcases List.mem_cons.mp hmem with rfl | hmem
    · have hlanded : placed.tree.Shows placed.position l := by
        rw [htree, hposition]
        exact shows_insert hnode hl
      exact h.keeps (P := fun t => t.Shows placed.position l)
        (fun _ parent x h => h.insert parent x) hlanded
    · exact ih (hcursor.place hplace) landing hmem l hl

theorem Block.locations_item (file : Text) (b : Block) :
    (b.item file).locations = [⟨file, (b.start + 1 : Nat)⟩] := by
  unfold Block.item
  dsimp only
  split <;> rfl

/-- Every block of a file that can be placed has a node that shows where its comment starts. -/
theorem exists_shows {file : Text} {ps : List Position} {m : Nat} {b : Block}
    (hrun : (placeAll t file lines).outcome = .ok ps) (hb : (blocks lines)[m]? = some b) :
    ∃ p, ps[m]? = some p ∧
      (placeAll t file lines).tree.Shows p ⟨file, (b.start + 1 : Nat)⟩ := by
  obtain ⟨L, hsteps, rfl⟩ := exists_steps hrun
  have hshows := hsteps.shows fun p hp => by simp at hp
  have hall := hsteps.forall₂ hshows (Q := fun _ => True) fun _ _ => trivial
  obtain ⟨hlength, hall⟩ := List.forall₂_iff_get.mp hall
  have hitem : (scan file lines)[m]? = some (b.item file) := by
    rw [scan_eq_map, List.getElem?_map, hb]
    rfl
  obtain ⟨hm, hget⟩ := List.getElem?_eq_some_iff.mp hitem
  obtain ⟨-, x, hx, hlocations⟩ := hall m hm (hlength ▸ hm)
  refine ⟨_, List.getElem?_eq_getElem (hlength ▸ hm), hx _ ?_⟩
  rw [hlocations, List.get_eq_getElem, hget, Block.locations_item]
  exact List.mem_singleton.mpr rfl

/-- **No comment is lost but inside of an earlier block.**  In a file that can be placed, a line
that starts a comment is the first line of a block, and the node of that block shows it; or it
lies in the comment of an earlier block, which no line in front of it has ended; or it lies in the
declaration of an earlier block, behind its first line, and the lines of the declaration in front
of it hold no terminator. -/
theorem startsAt_cases (t : Tree) (file : Text) (lines : List Text) {ps : List Position} {i : Nat}
    {line : Text} (hrun : (placeAll t file lines).outcome = .ok ps)
    (hline : lines[i]? = some line) (hstart : Comment.startsAt line = true) :
    (∃ (m : Nat) (b : Block) (p : Position), (blocks lines)[m]? = some b ∧ b.start = i ∧
        ps[m]? = some p ∧ (placeAll t file lines).tree.Shows p ⟨file, (i + 1 : Nat)⟩) ∨
      (∃ b ∈ blocks lines, b.start < i ∧ i < b.commentEnd ∧
        Comment.Unclosed (b.comment.firstLine :: (lines.take i).drop (b.start + 1))) ∨
      ∃ b ∈ blocks lines, b.commentEnd < i ∧ i < b.stop ∧
        Unterminated ((lines.take i).drop b.commentEnd) := by
  obtain ⟨b, hb, k, first, rest, hdrop, rfl, hk, hstop⟩ :=
    exists_block_from 0 hline hstart (Nat.zero_le i)
  rw [Nat.zero_add] at hb hstop
  rw [Nat.zero_add] at hstop
  rcases blockAt_cases hdrop hline hstart hk hstop with rfl | hcomment | ⟨hlt, hopen⟩
  · obtain ⟨m, hm⟩ := List.mem_iff_getElem?.mp hb
    obtain ⟨p, hp, hshows⟩ := exists_shows hrun hm
    exact .inl ⟨m, _, p, hm, rfl, hp, hshows⟩
  · exact .inr (.inl ⟨_, hb, hcomment⟩)
  · exact .inr (.inr ⟨_, hb, hlt, hstop, hopen⟩)

/-- Two classes, where the comment on the first one has two lines. -/
def twoClasses : List Text :=
  ["//! One,", "//! in two lines.", "class Foo;", "//! Two.", "class Bar;"].map String.toList

/-- The comment on the second class is found. -/
theorem startsAt_cases_twoClasses :
    ∃ ps, (placeAll .empty "a.h".toList twoClasses).outcome = .ok ps ∧ ps = [[0], [1]] ∧
      ∃ p ∈ ps, (placeAll .empty "a.h".toList twoClasses).tree.Shows p ⟨"a.h".toList, 4⟩ := by
  have hplaced : (placeAll .empty "a.h".toList twoClasses).outcome.toOption = some [[0], [1]] := by
    decide +kernel
  have hblocks : ∀ b ∈ blocks twoClasses, ¬ (b.start < 3 ∧ 3 < b.commentEnd) ∧
      ¬ (b.commentEnd < 3 ∧ 3 < b.stop) := by
    decide +kernel
  cases hrun : (placeAll .empty "a.h".toList twoClasses).outcome with
  | error e =>
    rw [hrun] at hplaced
    exact absurd hplaced (by simp [Except.toOption])
  | ok ps =>
    rw [hrun] at hplaced
    refine ⟨ps, rfl, Option.some.inj hplaced, ?_⟩
    rcases startsAt_cases .empty "a.h".toList twoClasses hrun (i := 3) rfl rfl with
      ⟨m, b, p, -, -, hp, hshows⟩ | ⟨b, hb, hlt, hend, -⟩ | ⟨b, hb, hlt, hstop, -⟩
    · exact ⟨p, List.mem_of_getElem? hp, hshows⟩
    · exact absurd ⟨hlt, hend⟩ (hblocks b hb).1
    · exact absurd ⟨hlt, hstop⟩ (hblocks b hb).2

/-- Two enumerators, each with its comment. -/
def enumerators : List Text := ["//! Red.", "RED,", "//! Green.", "GREEN"].map String.toList

/-- A comma does not end a declaration, so the comment on the second enumerator is taken for a part
of the first, and no node shows it. -/
theorem startsAt_missed_enumerators :
    (placeAll .empty "a.h".toList enumerators).outcome.toOption = some [[0]] ∧
      enumerators[2]?.map Comment.startsAt = some true ∧
      (∀ b ∈ blocks enumerators, b.start ≠ 2 ∧ ¬ (b.start < 2 ∧ 2 < b.commentEnd)) ∧
      ∀ found ∈ (placeAll .empty "a.h".toList enumerators).tree.walk,
        ⟨"a.h".toList, 3⟩ ∉ found.2.item.locations := by
  decide +kernel

end Source

end DocTree
