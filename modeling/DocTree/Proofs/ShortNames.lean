/-
The name below a scope.

The name of an item is what is left of its qualified name once the qualifiers of all scopes above
it are removed, one scope after the other.  The qualified name only spells the scopes of the last
part of the way, while scopes of any name lie above the place where this part begins:

* `Scope.exists_removeQualifier` — a scope removes scopes from the front of a qualified name, and
  its own name if that stands there;
* `Scope.removeQualifiers_of_sublist` — so scopes in the order of the tree remove all of them,
  whatever lies in between;
* `Tree.namesAlong_of_scopeWalk` — the scopes that a name leads along end the names above its item.

`Tree.place_member` puts this together.
-/
import DocTree.Proofs.Mirror
import DocTree.Proofs.TemplateMembers

namespace DocTree

/-- A qualified name as it is written, which may begin with a mark that leads to the root. -/
def writtenName (rooted : Bool) (scopes : List Text) (f : Text) : Text :=
  if rooted then scopeMark ++ qualified scopes f else qualified scopes f

theorem writtenName_ne_nil (rooted : Bool) (scopes : List Text) {f : Text} (hf : f ≠ []) :
    writtenName rooted scopes f ≠ [] := by
  cases rooted with
  | false =>
    show qualified scopes f ≠ []
    rw [Scope.qualified_eq]
    simp [hf]
  | true => simp [writtenName, scopeMark]

namespace Scope

variable {s x f : Text} {scopes chain : List Text} {before : Option Char}

theorem split_of_not_mem (hf : ':' ∉ f) : split f = [f] := by
  unfold split
  cases Operator.find? f with
  | none => simp [splitFrom_of_not_mem [] 0 hf]
  | some i =>
    have htake : ':' ∉ f.take i := fun h => hf (List.mem_of_mem_take h)
    simp [splitFrom_of_not_mem (f.drop i) 0 htake]

/-- The segments of a written name. -/
theorem split_writtenName (hscopes : ∀ s ∈ scopes, IsWord s ∧ s ≠ Operator.keyword)
    (hf : ':' ∉ f) (rooted : Bool) :
    split (writtenName rooted scopes f) =
      (if rooted then [] :: scopes else scopes) ++ [f] := by
  have hsegment : ∀ s ∈ scopes, Operator.find? s = none ∧ IsSegmentAt 0 s := fun s hs =>
    have hread := readsBack_of_isWord (hscopes s hs).1 (hscopes s hs).2
    ⟨hread.keyword, hread.segment⟩
  cases rooted with
  | false =>
    show split (qualified scopes f) = _
    rw [split_qualified_append hsegment, split_of_not_mem hf]
    rfl
  | true =>
    -- the mark is that of an empty segment in front
    have hempty : writtenName true scopes f = qualified ([] :: scopes) f := by
      rw [qualified_cons]
      rfl
    rw [hempty, split_qualified_append, split_of_not_mem hf]
    · rfl
    · exact List.forall_mem_cons.mpr ⟨⟨rfl, isSegmentAt_nil.mpr rfl⟩, hsegment⟩

/-! ### Removing scopes from the front -/

theorem not_mem_qualified_angle (hscopes : ∀ n ∈ scopes, IsWord n) (hangle : '<' ∉ f) :
    '<' ∉ qualified scopes f := by
  rw [qualified_eq]
  intro h
  rcases List.mem_append.mp h with h | h
  · exact absurd (isQualifierChar_of_mem_qualifier hscopes '<' h) (by decide)
  · exact hangle h

theorem markTokensFrom_qualified (hbefore : before.any isQualifierChar = true)
    (hscopes : ∀ n ∈ scopes, IsWord n) (hcolon : ':' ∉ f) (hangle : '<' ∉ f) :
    markTokensFrom (qualifierLength s) 0 before (qualified scopes f) =
      (qualified scopes f).map (·, false) := by
  rw [qualified_eq]
  exact markTokensFrom_qualifierLength_append hbefore (isQualifierChar_of_mem_qualifier hscopes)
    hcolon hangle

/-- A qualifier at the front of a text, behind which a qualified name is left. -/
theorem removeQualifier_append_qualified {w : Text} (hw : IsQualifier s w)
    (hlen : qualifierLength s none (w ++ qualified scopes f) = w.length)
    (hscopes : ∀ n ∈ scopes, IsWord n) (hcolon : ':' ∉ f) (hangle : '<' ∉ f) :
    removeQualifier s (w ++ qualified scopes f) = qualified scopes f := by
  have hne : w ≠ [] := by
    rintro rfl
    exact absurd hw.getLast? (by simp)
  rw [removeQualifier, removeTokens, markTokens, markTokensFrom_of_eq_length hne hlen, hw.getLast?,
    markTokensFrom_qualified rfl hscopes hcolon hangle]
  simp [unmark, List.filter_map, Function.comp_def]

theorem qualified_ne_colon (hscopes : ∀ n ∈ scopes, IsWord n) (hcolon : ':' ∉ f) :
    qualified scopes f ≠ ':' :: x := by
  intro h
  cases scopes with
  | nil =>
    rw [qualified_nil] at h
    exact hcolon (by simp [h])
  | cons n scopes =>
    have hn := hscopes n (by simp)
    obtain ⟨c, n', rfl⟩ := List.exists_cons_of_ne_nil hn.1
    rw [qualified_cons] at h
    obtain ⟨rfl, -⟩ := List.cons.inj h
    exact hn.not_mem isWordChar_colon (by simp)

/-- A text in front of a mark at the beginning of a qualified name is made of scopes. -/
theorem exists_drop_of_prefix (hscopes : ∀ n ∈ scopes, IsWord n) (hcolon : ':' ∉ f)
    (h : s ++ scopeMark <+: qualified scopes f) :
    ∃ n, 0 < n ∧ qualified scopes f = s ++ scopeMark ++ qualified (scopes.drop n) f := by
  obtain ⟨rest, h⟩ := h
  induction scopes generalizing s with
  | nil =>
    rw [qualified_nil] at h
    exact absurd (by rw [← h]; simp [scopeMark]) hcolon
  | cons n scopes ih =>
    rw [List.forall_mem_cons] at hscopes
    have hn : ':' ∉ n := hscopes.1.not_mem isWordChar_colon
    rw [qualified_cons, List.append_assoc] at h
    rcases List.append_eq_append_iff.mp h with ⟨u, rfl, hu⟩ | ⟨u, rfl, hu⟩
    · -- the first scope reaches over the text only if it is all of it
      cases u with
      | nil => exact ⟨1, Nat.one_pos, by simp [qualified_cons, scopeMark]⟩
      | cons d u =>
        obtain ⟨rfl, -⟩ := List.cons.inj hu
        exact absurd (by simp) hn
    · cases u with
      | nil => exact ⟨1, Nat.one_pos, by simp [qualified_cons, scopeMark]⟩
      | cons d u =>
        have hcons := List.cons.inj hu
        cases u with
        | nil =>
          exact absurd (by simpa [scopeMark] using hcons.2) (qualified_ne_colon hscopes.2 hcolon)
        | cons e u =>
          have hcons' := List.cons.inj hcons.2
          obtain ⟨m, -, hm⟩ := ih (s := u) hscopes.2 (by simpa using hcons'.2.symm)
          refine ⟨m + 1, Nat.succ_pos m, ?_⟩
          rw [← hcons.1, ← hcons'.1, qualified_cons, hm]
          simp [scopeMark]

theorem removeQualifier_eq_self (hlen : qualifierLength s none (qualified scopes f) = 0)
    (hscopes : ∀ n ∈ scopes, IsWord n) (hcolon : ':' ∉ f) (hangle : '<' ∉ f) :
    removeQualifier s (qualified scopes f) = qualified scopes f := by
  cases scopes with
  | nil =>
    rw [qualified_nil]
    exact removeQualifier_of_not_mem hcolon hangle
  | cons n scopes =>
    rw [List.forall_mem_cons] at hscopes
    obtain ⟨a, u, rfl⟩ := List.exists_cons_of_ne_nil hscopes.1.1
    have hword : ∀ d ∈ a :: u, isQualifierChar d = true := fun d hd => by
      simp [isQualifierChar, hscopes.1.2 d hd]
    have hfront : ∀ d ∈ u ++ scopeMark ++ qualifier scopes, isQualifierChar d = true := by
      intro d hd
      rcases List.mem_append.mp hd with hd | hd
      · rcases List.mem_append.mp hd with hd | hd
        · exact hword d (by simp [hd])
        · exact List.all_eq_true.mp (by decide) d hd
      · exact isQualifierChar_of_mem_qualifier hscopes.2 d hd
    have htext : qualified ((a :: u) :: scopes) f =
        a :: (u ++ scopeMark ++ qualifier scopes ++ f) := by
      rw [qualified_eq, qualifier_cons]
      simp [scopeMark]
    rw [htext] at hlen ⊢
    have ha : (some a).any isQualifierChar = true := hword a (by simp)
    rw [removeQualifier, removeTokens, markTokens, markTokensFrom_of_eq_zero hlen,
      markTokensFrom_qualifierLength_append ha hfront hcolon hangle]
    simp [unmark, List.filter_map, Function.comp_def]

/-- Whatever its name, a scope removes scopes from the front, and itself if it stands there. -/
theorem exists_removeQualifier (s : Text) (hscopes : ∀ n ∈ scopes, IsWord n) (hcolon : ':' ∉ f)
    (hangle : '<' ∉ f) :
    ∃ n, removeQualifier s (qualified scopes f) = qualified (scopes.drop n) f ∧
      (scopes.head? = some s → 0 < n) := by
  have ht := not_mem_qualified_angle hscopes hangle
  rcases qualifierLength_cases (s := s) ht none with hzero | ⟨w, hw, hpre, hlen⟩
  · refine ⟨0, removeQualifier_eq_self hzero hscopes hcolon hangle, fun hhead => ?_⟩
    -- the name of the first scope is a qualifier there
    obtain ⟨rest, rfl⟩ := List.head?_eq_some_iff.mp hhead
    have hplain : s ++ scopeMark <+: qualified (s :: rest) f :=
      ⟨qualified rest f, by simp [qualified_cons, scopeMark]⟩
    rw [qualifierLength_eq ht, if_neg (by simp), if_pos hplain] at hzero
    split at hzero <;> omega
  · rcases id hw with rfl | rfl
    · obtain ⟨n, hn, heq⟩ := exists_drop_of_prefix hscopes hcolon hpre
      refine ⟨n, ?_, fun _ => hn⟩
      rw [heq] at hlen ⊢
      exact removeQualifier_append_qualified hw hlen
        (fun m hm => hscopes m (List.mem_of_mem_drop hm)) hcolon hangle
    · obtain ⟨rest, hrest⟩ := hpre
      exact absurd hrest.symm (qualified_ne_colon hscopes hcolon)

/-- Scopes among which those of a qualified name come in their order remove all of them. -/
theorem removeQualifiers_of_sublist (hchain : scopes.Sublist chain)
    (hscopes : ∀ n ∈ scopes, IsWord n) (hcolon : ':' ∉ f) (hangle : '<' ∉ f) :
    removeQualifiers chain (qualified scopes f) = f := by
  induction chain generalizing scopes with
  | nil =>
    obtain rfl := List.sublist_nil.mp hchain
    exact qualified_nil f
  | cons s chain ih =>
    obtain ⟨n, heq, hn⟩ := exists_removeQualifier s hscopes hcolon hangle
    rw [removeQualifiers_cons, heq]
    refine ih ?_ fun m hm => hscopes m (List.mem_of_mem_drop hm)
    cases hchain with
    | cons _ h => exact (List.drop_sublist n scopes).trans h
    | @cons_cons rest _ _ h =>
      -- the first scope is gone
      obtain ⟨m, rfl⟩ := Nat.exists_eq_succ_of_ne_zero (hn rfl).ne'
      exact (List.drop_sublist m rest).trans h

/-- A mark that leads to the root is removed with the first scope. -/
theorem removeQualifier_scopeMark (hscopes : ∀ n ∈ s :: scopes, IsWord n) (hcolon : ':' ∉ f)
    (hangle : '<' ∉ f) :
    removeQualifier s (scopeMark ++ qualified (s :: scopes) f) = qualified scopes f := by
  have hw : IsQualifier s (scopeMark ++ (s ++ scopeMark)) := .inr rfl
  have htext : scopeMark ++ qualified (s :: scopes) f =
      scopeMark ++ (s ++ scopeMark) ++ qualified scopes f := by
    simp [qualified_cons, scopeMark]
  have ht : '<' ∉ scopeMark ++ qualified (s :: scopes) f := by
    intro h
    rcases List.mem_append.mp h with h | h
    · exact absurd h (by decide)
    · exact not_mem_qualified_angle hscopes hangle h
  have hlen : qualifierLength s none (scopeMark ++ qualified (s :: scopes) f) =
      (scopeMark ++ (s ++ scopeMark)).length := by
    rw [qualifierLength_eq ht, if_neg (by simp), if_pos ⟨_, htext.symm⟩]
    simp [scopeMark]
  rw [htext] at hlen ⊢
  exact removeQualifier_append_qualified hw hlen (List.forall_mem_cons.mp hscopes).2 hcolon hangle

end Scope

namespace Tree

variable {t node : Tree} {item : Item} {cursor : Cursor} {target : Target}
  {start p parent : Position} {scopes chain : List Text} {f : Text} {rooted : Bool}

/-- What is left of a written name below scopes that end in those it lists. -/
theorem dropRootMark_removeQualifiers (hchain : scopes.Sublist chain)
    (hrooted : rooted = true → chain = scopes) (hscopes : ∀ n ∈ scopes, IsWord n)
    (hcolon : ':' ∉ f) (hangle : '<' ∉ f) :
    dropRootMark (Scope.removeQualifiers chain (writtenName rooted scopes f)) = f := by
  cases rooted with
  | false =>
    show dropRootMark (Scope.removeQualifiers chain (qualified scopes f)) = f
    rw [Scope.removeQualifiers_of_sublist hchain hscopes hcolon hangle,
      dropRootMark_of_not_mem hcolon]
  | true =>
    obtain rfl := hrooted rfl
    show dropRootMark (Scope.removeQualifiers chain (scopeMark ++ qualified chain f)) = f
    cases chain with
    | nil =>
      rw [qualified_nil]
      rfl
    | cons s chain =>
      rw [Scope.removeQualifiers_cons, Scope.removeQualifier_scopeMark hscopes hcolon hangle,
        Scope.removeQualifiers_of_sublist (List.Sublist.refl chain)
          (List.forall_mem_cons.mp hscopes).2 hcolon hangle,
        dropRootMark_of_not_mem hcolon]

/-! ### The names above an item -/

/-- The nodes on the way from `start` down to `p` are registered under their own names. -/
def NamedAlong (t : Tree) (start p : Position) : Prop :=
  ∀ r, start <+: r → r ≠ start → r <+: p → ∀ node, t.get? r = some node →
    node.item.name = node.key

/-- A scope is registered under the key that it is found with. -/
theorem NamesScope.key_eq {k : Text} {i : Nat} (h : t.NamesScope p k i)
    (hnode : t.get? (p ++ [i]) = some node) : node.key = some k := by
  obtain ⟨F, -, hF, hkey, -⟩ := h
  obtain ⟨above, habove, rfl⟩ := exists_get?_of_face? hF
  obtain ⟨c, hc⟩ := childIndex?_eq_some.mp hkey
  obtain ⟨hchild, hckey, -⟩ := child?_eq_some.mp hc
  have hfound : t.get? (p ++ [i]) = some c := by
    rw [get?_append, habove]
    simp [get?, hchild]
  obtain rfl := Option.some.inj (hnode.symm.trans hfound)
  exact hckey

/-- The scopes that a walk leads along end the names on the way to where it leads. -/
theorem namesAlong_of_scopeWalk (hwalk : t.ScopeWalk start scopes p)
    (hscopes : ∀ s ∈ scopes, s ≠ [] ∧ Scope.dropArguments s = s) (hnamed : t.NamedAlong start p) :
    t.namesAlong p = t.namesAlong start ++ scopes := by
  induction hwalk with
  | done => simp
  | restart => exact absurd rfl (hscopes [] (by simp)).1
  | @descend start p s scopes i hs hi hwalk ih =>
    rw [List.forall_mem_cons] at hscopes
    obtain ⟨r, rfl, -⟩ := hwalk.exists_append fun n hn => (hscopes.2 n hn).1
    obtain ⟨node, hnode⟩ := hi.exists_get?
    have hname : node.item.name = some s := by
      have hown := hnamed (start ++ [i]) (List.prefix_append _ _) (by simp)
        (List.prefix_append _ _) node hnode
      rw [hown, hi.key_eq hnode, hscopes.1.2]
    have hbelow : t.NamedAlong (start ++ [i]) (start ++ [i] ++ r) := by
      intro q hq hne hp
      refine hnamed q ((List.prefix_append _ _).trans hq) (fun h => ?_) hp
      have hlen := hq.length_le
      rw [h, List.length_append, List.length_singleton] at hlen
      omega
    have hfilter : (some s).filter (fun n => !n.isEmpty) = some s := by
      simpa using hs
    rw [ih hscopes.2 hbelow, namesAlong_concat (item?_of_get? hnode), hname, hfilter]
    simp

/-- The scopes that a written name lists. -/
theorem scopes_of_writtenName (hname : item.qualifiedName = some (writtenName rooted scopes f))
    (hscopes : ∀ s ∈ scopes, IsWord s ∧ s ≠ Operator.keyword) (hne : f ≠ []) (hcolon : ':' ∉ f) :
    item.scopes = if rooted then [] :: scopes else scopes := by
  have hwritten := writtenName_ne_nil rooted scopes hne
  have hsplit := Scope.split_writtenName hscopes hcolon rooted
  unfold Item.scopes
  rw [hname]
  cases hw : writtenName rooted scopes f with
  | nil => exact absurd hw hwritten
  | cons c rest =>
    show (Scope.split (c :: rest)).dropLast = _
    rw [← hw, hsplit, List.dropLast_concat]

/-- **The short name is the last segment.**  Let a qualified name list scopes that are words other
than the keyword `operator`, and a last segment without colon and `<`, as an identifier or a `~` in
front of one, and let it begin with `::` or not.  Let it lead from the target of the directives, or
from the root if it begins with `::`, to a parent through nodes that are registered under their own
names.  Then the item is placed below the parent with the last segment as its name, whatever lies
above the place where the walk starts.  Where that is the root, the names down to the parent and the
name are the qualified name again. -/
theorem place_member (t : Tree) (cursor : Cursor)
    (hname : item.qualifiedName = some (writtenName rooted scopes f))
    (hscopes : ∀ s ∈ scopes, IsWord s ∧ s ≠ Operator.keyword) (hne : f ≠ []) (hcolon : ':' ∉ f)
    (hangle : '<' ∉ f) (htarget : t.targetOf cursor item = .ok target)
    (hresolve : t.resolve (target.parent.getD []) item = .ok parent)
    (hnamed : t.NamedAlong (if rooted then [] else target.parent.getD []) parent) :
    (∃ placed x, t.destination cursor item = .ok (parent, x) ∧
        t.place cursor item = .ok placed ∧ placed.tree = (t.insert parent x).1 ∧
        placed.position = (t.insert parent x).2 ∧ x.name = some f) ∧
      ((rooted = true ∨ target.parent.getD [] = []) →
        qualified (t.namesAlong parent) f = qualified scopes f) := by
  have hwords : ∀ s ∈ scopes, IsWord s := fun s hs => (hscopes s hs).1
  have hplain : ∀ s ∈ scopes, s ≠ [] ∧ Scope.dropArguments s = s := fun s hs =>
    ⟨(hwords s hs).1, (Scope.readsBack_iff.mp
      (Scope.readsBack_of_isWord (hwords s hs) (hscopes s hs).2)).2⟩
  have hwalk := resolve_eq_ok_iff_scopeWalk.mp hresolve
  rw [scopes_of_writtenName hname hscopes hne hcolon] at hwalk
  -- a mark in front makes the walk begin at the root
  have hstart : t.ScopeWalk (if rooted then [] else target.parent.getD []) scopes parent := by
    cases rooted with
    | false => exact hwalk
    | true =>
      cases hwalk with
      | restart h => exact h
      | descend hs => exact absurd rfl hs
  have halong := namesAlong_of_scopeWalk hstart hplain hnamed
  have hroot : (if rooted then [] else target.parent.getD []) = [] →
      t.namesAlong parent = scopes := by
    intro h
    rw [halong, h]
    rfl
  have hleft : dropRootMark (Scope.removeQualifiers (t.namesAlong parent)
      (writtenName rooted scopes f)) = f := by
    refine dropRootMark_removeQualifiers ?_ (fun h => hroot (if_pos h)) hwords hcolon hangle
    rw [halong]
    exact List.sublist_append_right _ _
  constructor
  · have hdest : t.destination cursor item =
        .ok (parent, t.settle parent { item with asIs := target.asIs }) :=
      destination_eq_ok_iff.mpr ⟨target, targetOf_eq_ok_iff.mp htarget,
        resolve_eq_ok_iff_scopeWalk.mp hresolve, rfl⟩
    obtain ⟨placed, hplace, htree, hposition⟩ := place_of_destination hdest
    refine ⟨placed, _, hdest, hplace, htree, hposition, ?_⟩
    let y : Item := { item with asIs := target.asIs }
    have hy : y.qualifiedName = some (writtenName rooted scopes f) := hname
    rw [(name_display_settle t parent hy (writtenName_ne_nil rooted scopes hne)).1, unqualify, hy]
    show (if (dropRootMark (Scope.removeQualifiers (t.namesAlong parent)
      (writtenName rooted scopes f))).isEmpty then none else _) = _
    rw [hleft, if_neg (by simpa using hne)]
    exact congrArg some hleft
  · intro h
    rw [hroot]
    split
    · rfl
    · exact h.resolve_left ‹_›

/-- A scope inside a scope of the same name. -/
def sameNames : Tree :=
  (Session.run [.read "a.h".toList
    ["//!> The outer scope.".toList, "namespace A".toList, "\x7b".toList,
      "//!> The inner scope.".toList, "class A".toList, "\x7b".toList]]).tree

/-- A destructor of the inner scope, as the outer one writes it. -/
def destructor : Item := ({} : Item).declare "A::~A()".toList

/-- The qualifier is removed once, on behalf of the outer scope. -/
theorem place_destructor :
    sameNames.namesAlong [0, 0] = ["A".toList, "A".toList] ∧
      ∃ placed x, sameNames.place (some [0]) destructor = .ok placed ∧
        placed.position = (sameNames.insert [0, 0] x).2 ∧ x.name = some "~A".toList := by
  have hnode : (sameNames.get? [0, 0]).map (fun node => (node.item.name, node.key)) =
      some (some "A".toList, some "A".toList) := by
    decide +kernel
  have hnamed : sameNames.NamedAlong [0] [0, 0] := by
    intro r hr hne hp node hr'
    -- there is one node below the outer scope
    have hmem : r ∈ [[], [0], [0, 0]] := (List.mem_inits r [0, 0]).mpr hp
    obtain rfl : r = [0, 0] := by
      simp only [List.mem_cons, List.not_mem_nil, or_false] at hmem
      rcases hmem with rfl | rfl | rfl
      · exact absurd hr (by decide)
      · exact absurd rfl hne
      · rfl
    rw [hr'] at hnode
    simp only [Option.map_some, Option.some_inj, Prod.mk.injEq] at hnode
    rw [hnode.1, hnode.2]
  have hname : destructor.qualifiedName = some (writtenName false ["A".toList] "~A".toList) := by
    decide +kernel
  have htarget : sameNames.targetOf (some [0]) destructor = .ok { parent := some [0] } := rfl
  have hresolve : sameNames.resolve [0] destructor = .ok [0, 0] := by decide +kernel
  obtain ⟨placed, x, -, hplace, -, hposition, hshort⟩ :=
    (place_member sameNames (some [0]) hname (by decide) (by decide) (by decide) (by decide) htarget
      hresolve hnamed).1
  exact ⟨by decide +kernel, placed, x, hplace, hposition, hshort⟩

end Tree

end DocTree
