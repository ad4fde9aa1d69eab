/-
Comments that stand on their own.

Whether a comment stands on its own is decided twice: before a declaration is read, by what its
directives say behind their last bracket, and when they are carried out, from left to right.  The
two readings part on texts such as `~[A]`, but not on what a directive token stands for:

* `Directive.read_group`, `Directive.asIs_mem_read_of_not_mem` — what is read from left to right,
  and `Directive.requestsAsIs_append` — what is read from the end;
* `Directive.asIs_of_carryOut` — so directives of a token that are carried out are read in the same
  way;
* `Tree.SilentAt`, `Source.silentAt_placeFrom` — a comment that stands on its own has no declaration
  when it is read, and its node gets none later.
-/
import DocTree.Proofs.Coherence
import DocTree.Proofs.DirectiveTokens

namespace DocTree

/-! ### Two readings -/

namespace Directive

open Comment

variable {t : Tree} {source front path run : Text} {cursor : Cursor} {target : Target}

/-- Read from the end, a text without brackets comes whole. -/
theorem takeWhile_reverse_append (h : ']' ∉ run) (rest : Text) :
    (run.reverse ++ rest).takeWhile (· != ']') = run.reverse ++ rest.takeWhile (· != ']') :=
  List.takeWhile_append_of_pos (bne_of_mem (fun hmem => h (List.mem_reverse.mp hmem)))

theorem requestsAsIs_of_not_mem (h : ']' ∉ run) : requestsAsIs run = run.contains '~' := by
  rw [requestsAsIs, ← List.append_nil run.reverse, takeWhile_reverse_append h]
  simp

/-- Only what comes after the last bracket counts. -/
theorem requestsAsIs_append (h : ']' ∉ run) :
    requestsAsIs (front ++ ']' :: run) = run.contains '~' := by
  have hreverse : (front ++ ']' :: run).reverse = run.reverse ++ ']' :: front.reverse := by simp
  rw [requestsAsIs, hreverse, takeWhile_reverse_append h, List.takeWhile_cons_of_neg (by decide)]
  simp

/-- Without a bracket, every `~` is a directive. -/
theorem asIs_mem_read_of_not_mem (h : '[' ∉ run) : asIs ∈ read run ↔ '~' ∈ run := by
  unfold read
  induction run with
  | nil => simp [readFrom]
  | cons c rest ih =>
    rw [List.mem_cons, not_or] at h
    have hrest := ih h.2
    rw [readFrom]
    by_cases htilde : c = '~'
    · simp [htilde]
    · have hne : ('~' : Char) ≠ c := Ne.symm htilde
      simp only [beq_iff_eq, htilde, Ne.symm h.1, if_false, List.mem_cons, hne, false_or]
      split
      · simpa using hrest
      · split
        · simpa using hrest
        · split <;> simpa using hrest

theorem readFrom_some_append (h : ']' ∉ path) (opened : Text) :
    readFrom (some opened) (path ++ ']' :: run) = .descend (opened ++ path) :: read run := by
  induction path generalizing opened with
  | nil => simp [readFrom, read]
  | cons c rest ih =>
    rw [List.mem_cons, not_or] at h
    have hc : (c == ']') = false := by simpa using Ne.symm h.1
    rw [List.cons_append, readFrom, hc]
    simpa using ih h.2 (opened ++ [c])

theorem readFrom_some_of_not_mem (h : ']' ∉ path) (opened : Text) :
    readFrom (some opened) path = [.unclosed] := by
  induction path generalizing opened with
  | nil => rfl
  | cons c rest ih =>
    rw [List.mem_cons, not_or] at h
    have hc : (c == ']') = false := by simpa using Ne.symm h.1
    rw [readFrom, hc]
    exact ih h.2 _

/-- A group comes first. -/
theorem read_group (h : ']' ∉ path) :
    read ('[' :: path ++ ']' :: run) = .descend path :: read run :=
  readFrom_some_append h []

theorem read_unclosed (h : ']' ∉ path) : read ('[' :: path) = [.unclosed] :=
  readFrom_some_of_not_mem h []

/-- Directives of a token that are carried out make a comment stand on its own exactly when they
ask for it. -/
theorem asIs_of_carryOut (hsource : IsDirectives source)
    (h : carryOut t source cursor = .ok target) : target.asIs = requestsAsIs source := by
  have hread : asIs ∈ read source ↔ requestsAsIs source = true := by
    cases hsource with
    | signs hrun =>
      obtain ⟨hopen, hclose⟩ := bracket_not_mem_of_signs hrun
      rw [asIs_mem_read_of_not_mem hopen, requestsAsIs_of_not_mem hclose, List.contains_iff_mem]
    | group hpath hrun =>
      obtain ⟨hopen, hclose⟩ := bracket_not_mem_of_signs hrun
      rw [read_group hpath, requestsAsIs_append hclose, List.contains_iff_mem,
        ← asIs_mem_read_of_not_mem hopen]
      simp
    | @unclosed path run hpath hrun =>
      -- a group that is not closed is no target
      have hpath' : ']' ∉ path ++ run := by simp [hpath, (bracket_not_mem_of_signs hrun).2]
      rw [List.cons_append] at h
      unfold carryOut at h
      rw [read_unclosed hpath'] at h
      exact absurd h (by simp [step])
  rcases carryOut_cases h with ⟨hmem, rfl⟩ | ⟨hmem, hasIs, -⟩
  · exact (hread.mp hmem).symm
  · rw [hasIs, eq_comm, Bool.eq_false_iff]
    exact fun hrequests => hmem (hread.mpr hrequests)

/-- A comment that stands on its own leaves the cursor alone. -/
theorem eq_of_carryOut_of_asIs (h : carryOut t source cursor = .ok target)
    (hasIs : target.asIs = true) : target.parent = cursor ∧ target.adopts = false := by
  rcases carryOut_cases h with ⟨-, rfl⟩ | ⟨-, hnot, -⟩
  · exact ⟨rfl, rfl⟩
  · rw [hnot] at hasIs
    exact absurd hasIs (by decide)

end Directive

/-! ### Items without a declaration -/

/-- Nothing is known of an item that a declaration would tell. -/
structure Item.Undeclared (x : Item) : Prop where
  name : x.name = none
  qualifiedName : x.qualifiedName = none
  kind : x.kind = none
  declaration : x.declaration = none
  display : x.display = none
  minimal : x.minimal = none
  templateParameters : x.templateParameters = none

/-- An item with the directives of a token, which is not declared if they say that it stands on
its own. -/
structure Item.IsRead (item : Item) : Prop where
  directives : Comment.IsDirectives item.directives
  undeclared : Directive.requestsAsIs item.directives = true → item.Undeclared

namespace Tree

variable {t node : Tree} {item x : Item} {cursor : Cursor} {parent q : Position}

theorem registeredKey_of_undeclared (h : x.Undeclared) : registeredKey x = none := by
  have hfun : x.isFunction = false := by simp [Item.isFunction, h.kind]
  simp [registeredKey, Item.key, hfun, h.name]

theorem settle_of_undeclared (h : x.Undeclared) (t : Tree) (p : Position) : t.settle p x = x := by
  have hname : Text.isNoText x.qualifiedName = true := by simp [h.qualifiedName, Text.isNoText]
  unfold settle
  dsimp only
  rw [if_pos hname, h.display]

/-- At its destination an item stands on its own exactly when its directives ask for it, and then
it is not declared. -/
theorem asIs_of_destination (hitem : item.IsRead)
    (hdest : t.destination cursor item = .ok (parent, x)) :
    x.asIs = Directive.requestsAsIs x.directives ∧ (x.asIs = true → x.Undeclared) := by
  obtain ⟨target, htarget, -, hx⟩ := destination_eq_ok_iff.mp hdest
  have htargetAsIs := Directive.asIs_of_carryOut hitem.directives htarget
  have hdirectives : x.directives = item.directives := by
    obtain ⟨_, _, _, _, heq⟩ := exists_eq_of_destination hdest
    rw [heq]
  have hasIs : x.asIs = target.asIs := by
    rw [hx]
    unfold settle
    dsimp only
    split <;> split <;> rfl
  refine ⟨by rw [hasIs, hdirectives, htargetAsIs], fun hxasIs => ?_⟩
  have hundeclared := hitem.undeclared (by rw [← htargetAsIs, ← hasIs, hxasIs])
  obtain ⟨h1, h2, h3, h4, h5, h6, h7⟩ := hundeclared
  have hmoved : Item.Undeclared { item with asIs := target.asIs } := ⟨h1, h2, h3, h4, h5, h6, h7⟩
  rw [hx, settle_of_undeclared hmoved]
  exact hmoved

/-- There is a node, which is not declared if it stands on its own. -/
def SilentAt (t : Tree) (q : Position) : Prop :=
  ∃ y, t.item? q = some y ∧ (y.asIs = true → y.Undeclared)

/-- An item that stands on its own becomes a new node, and what lands elsewhere does not
matter. -/
theorem silentAt_insert (hparent : t.get? parent = some node)
    (hx : x.asIs = true → x.Undeclared) (hq : q = (t.insert parent x).2 ∨ t.SilentAt q) :
    (t.insert parent x).1.SilentAt q := by
  have hitem := item?_insert hparent x q
  by_cases hposition : q = (t.insert parent x).2
  · rw [if_pos hposition] at hitem
    refine ⟨_, hitem, ?_⟩
    cases hold : t.item? q with
    | none => exact hx
    | some old =>
      intro hasIs
      have hkey := registeredKey_of_undeclared (hx hasIs)
      rcases insert_cases hparent x with ⟨-, hmerged⟩ | ⟨-, happended⟩
      · obtain ⟨-, k, -, -, hk, -⟩ := hmerged.registered
        rw [hkey] at hk
        exact absurd hk (by simp)
      · rw [hposition, item?, happended.fresh] at hold
        exact absurd hold (by simp)
  · rw [if_neg hposition] at hitem
    obtain ⟨y, hy, hsilent⟩ := hq.resolve_left hposition
    exact ⟨y, hitem.trans hy, hsilent⟩

end Tree

/-! ### Runs -/

namespace Source

open DocTree.Tree

variable {t : Tree} {cursor : Cursor} {item : Item} {items : List Item} {file : Text}
  {lines : List Text}

theorem isRead_of_mem_scan (h : item ∈ scan file lines) : item.IsRead := by
  obtain ⟨before, line, rest, -, -, rfl⟩ := exists_itemAt_of_mem_scanFrom h
  have hread : (Comment.collect line rest).directives = (Comment.splitToken line).1 := rfl
  unfold itemAt
  dsimp only
  split
  · refine ⟨Comment.isDirectives_splitToken line, fun _ => ?_⟩
    exact ⟨rfl, rfl, rfl, rfl, rfl, rfl, rfl⟩
  · rename_i hasIs
    split
    · exact ⟨Comment.isDirectives_splitToken line, fun h => absurd h hasIs⟩
    · exact ⟨Comment.isDirectives_splitToken line, fun h => absurd h hasIs⟩

/-- In a run, what lands stands on its own if its directives ask for it, and then its node is not
declared in the end.  The same holds of nodes from before. -/
theorem silentAt_placeFrom (hitems : ∀ item ∈ items, item.IsRead) (hcursor : t.HasCursor cursor) :
    (∀ q, t.SilentAt q → (placeFrom t cursor items).tree.SilentAt q) ∧
      ∀ q x, (q, x) ∈ landingsFrom t cursor items →
        x.asIs = Directive.requestsAsIs x.directives ∧
          (placeFrom t cursor items).tree.SilentAt q := by
  induction items generalizing t cursor with
  | nil => exact ⟨fun q h => h, fun q x h => absurd h (by simp [landingsFrom])⟩
  | cons item rest ih =>
    rcases landingsFrom_cons_cases t cursor item rest with
      ⟨parent, x, placed, hdest, hplace, htree, hlandings⟩ | ⟨htree, hlandings⟩
    · obtain ⟨node, hnode, hinsert, hposition, -⟩ := hcursor.insert_of_place hdest hplace
      obtain ⟨hasIs, hundeclared⟩ := asIs_of_destination (hitems item (by simp)) hdest
      obtain ⟨hkept, hlanded⟩ := ih (fun i hi => hitems i (by simp [hi])) (hcursor.place hplace)
      have hstep : ∀ q, q = placed.position ∨ t.SilentAt q → placed.tree.SilentAt q := by
        rw [hinsert, hposition]
        exact fun q hq => silentAt_insert hnode hundeclared hq
      rw [htree, hlandings]
      refine ⟨fun q hq => hkept q (hstep q (.inr hq)), fun q y hmem => ?_⟩
      rcases List.mem_cons.mp hmem with heq | hmem
      · obtain ⟨rfl, rfl⟩ := Prod.mk.inj heq
        exact ⟨hasIs, hkept _ (hstep _ (.inl rfl))⟩
      · exact hlanded q y hmem
    · rw [htree, hlandings]
      exact ⟨fun q h => h, fun q x h => absurd h (by simp)⟩

/-- **The two readings of `~` agree.**  Take the directives of any line.  If they can be carried
out, in any tree and from any cursor, the comment stands on its own exactly when they ask for it,
and then the cursor is left alone and the item does not become the next one.  In every run over a
file, as far as it gets, the items that land keep to this, and a node that stands on its own in the
end has nothing of a declaration.  The line that is left has no directives, and stays as it is. -/
theorem asIs_readings_agree :
    (∀ (line : Text) (t : Tree) (cursor : Cursor) (target : Target),
      Directive.carryOut t (Comment.splitToken line).1 cursor = .ok target →
        target.asIs = Directive.requestsAsIs (Comment.splitToken line).1 ∧
          (target.asIs = true → target.parent = cursor ∧ target.adopts = false)) ∧
      (∀ (t : Tree) (file : Text) (lines : List Text) (q : Position) (x : Item),
        (q, x) ∈ landingsFrom t none (scan file lines) →
          x.asIs = Directive.requestsAsIs x.directives ∧
            ∃ y, (placeAll t file lines).tree.item? q = some y ∧
              (y.asIs = true → y.Undeclared)) ∧
      ∀ line, Comment.splitToken (Comment.splitToken line).2 =
        ([], (Comment.splitToken line).2) := by
  refine ⟨fun line t cursor target h => ?_, fun t file lines q x hmem => ?_,
    Comment.splitToken_splitToken⟩
  · exact ⟨Directive.asIs_of_carryOut (Comment.isDirectives_splitToken line) h,
      Directive.eq_of_carryOut_of_asIs h⟩
  · have hcursor : t.HasCursor none := fun p hp => absurd hp (by simp)
    exact (silentAt_placeFrom (fun item h => isRead_of_mem_scan h) hcursor).2 q x hmem

/-- A remark in a namespace, with directives that would lead to the root. -/
def zooRemark : SourceFile :=
  ("zoo.h".toList,
    ["//!> A scope.", "namespace Zoo", "\x7b", "//!^>~ On its own.", "void feed();"].map
      String.toList)

/-- The remark stays in the namespace, without the function behind it. -/
theorem asIs_readings_agree_zooRemark :
    Directive.carryOut .empty "^>~".toList (some [0]) = .ok { parent := some [0], asIs := true } ∧
      ∃ y, (placeAll .empty zooRemark.1 zooRemark.2).tree.item? [0, 0] = some y ∧
        y.asIs = true ∧ y.Undeclared := by
  have hline : (Comment.splitToken "//!^>~ On its own.".toList).1 = "^>~".toList := by decide
  have hrun : ((landingsFrom .empty none (scan zooRemark.1 zooRemark.2))[1]?.map Prod.fst) =
      some [0, 0] := by decide +kernel
  have hasIs : ((placeAll .empty zooRemark.1 zooRemark.2).tree.item? [0, 0]).map Item.asIs =
      some true := by decide +kernel
  obtain ⟨hcarry, hlanded, -⟩ := asIs_readings_agree
  replace hcarry := hcarry "//!^>~ On its own.".toList
  rw [hline] at hcarry
  constructor
  · obtain ⟨target, htarget⟩ : ∃ target,
        Directive.carryOut .empty "^>~".toList (some [0]) = .ok target := ⟨_, rfl⟩
    obtain ⟨hflag, halone⟩ := hcarry _ _ _ htarget
    have hasks : Directive.requestsAsIs "^>~".toList = true := by decide
    obtain ⟨hparent, hadopts⟩ := halone (hflag.trans hasks)
    obtain ⟨parent, asIs, adopts⟩ := target
    subst hparent hadopts
    rw [htarget, show asIs = true from hflag.trans hasks]
  · obtain ⟨⟨q, x⟩, hx, rfl⟩ := Option.map_eq_some_iff.mp hrun
    obtain ⟨-, y, hy, hsilent⟩ := hlanded .empty _ _ _ _ (List.mem_of_getElem? hx)
    rw [hy] at hasIs
    have hyasIs : y.asIs = true := Option.some.inj hasIs
    exact ⟨y, hy, hyasIs, hsilent hyasIs⟩

end Source

end DocTree
