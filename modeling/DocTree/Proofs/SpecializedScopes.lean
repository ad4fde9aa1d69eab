/-
Scopes written with template arguments.

A scope may carry template arguments in a qualified name, `Container<T>::add`, and is then found
without them.  The scan of the name counts angle brackets over all of it, and the arguments are cut
off each segment apart:

* `WrittenScope` — a scope as a qualified name writes it;
* `WrittenScope.split_qualified_text` — the segments of the name are the scopes as written;
* `WrittenScope.dropArguments_text_iff` — a segment without its template arguments is the scope,
  unless they hold a line break;
* `Tree.exists_foldlM_text` — so the walk along the name takes the same way as without them.

`Tree.resolve_text` puts this together, and `Tree.resolve_wrapped` shows what a line break does.
-/
import DocTree.Proofs.Locality
import DocTree.Proofs.ScopeResolution
import DocTree.Proofs.TemplateMembers

namespace DocTree

/-- A scope as a qualified name writes it: its name, and template arguments or none. -/
structure WrittenScope where
  name : Text
  arguments : Option Text := none
deriving DecidableEq, Repr

namespace WrittenScope

variable {s : WrittenScope} {scopes : List WrittenScope} {f : Text}

/-- The scope as it is written. -/
def text (s : WrittenScope) : Text :=
  match s.arguments with
  | some a => Scope.specialized s.name a
  | none => s.name

/-- The name is an identifier, and the angle brackets in the arguments are properly nested.  The
arguments may hold anything else but the keyword `operator`. -/
structure IsPlain (s : WrittenScope) : Prop where
  name : IsWord s.name
  noKeyword : s.name ≠ Operator.keyword
  arguments : ∀ a, s.arguments = some a → Scope.IsNested a ∧ Operator.find? a = none

/-- The scope is written on one line. -/
def OnOneLine (s : WrittenScope) : Prop := '\n' ∉ s.text

instance (s : WrittenScope) : Decidable s.OnOneLine := inferInstanceAs (Decidable (_ ∉ _))

/-- The same scope without template arguments. -/
def plain (s : WrittenScope) : WrittenScope := { name := s.name }

theorem IsPlain.plain (h : s.IsPlain) : s.plain.IsPlain where
  name := h.name
  noKeyword := h.noKeyword
  arguments := by simp [WrittenScope.plain]

theorem IsPlain.name_ne_nil (h : s.IsPlain) : s.name ≠ [] := h.name.1

theorem IsPlain.text_ne_nil (h : s.IsPlain) : s.text ≠ [] := by
  unfold text
  split
  · simp [Scope.specialized]
  · exact h.name_ne_nil

/-- A written scope is one segment. -/
theorem IsPlain.isSegment (h : s.IsPlain) :
    Operator.find? s.text = none ∧ Scope.IsSegmentAt 0 s.text := by
  unfold text
  split
  · rename_i a ha
    obtain ⟨hnested, hnone⟩ := h.arguments a ha
    refine ⟨?_, Scope.isSegmentAt_specialized h.name hnested⟩
    rw [Scope.specialized, Scope.find?_specialized h.name h.noKeyword, hnone]
    rfl
  · have hread := Scope.readsBack_of_isWord h.name h.noKeyword
    exact ⟨hread.keyword, hread.segment⟩

/-- The segments of a qualified name are its scopes as they are written, and its last segment. -/
theorem split_qualified_text (hplain : ∀ s ∈ scopes, s.IsPlain) (hf : Scope.split f = [f]) :
    Scope.split (qualified (scopes.map text) f) = scopes.map text ++ [f] := by
  rw [Scope.split_qualified_append, hf]
  intro n hn
  obtain ⟨s, hs, rfl⟩ := List.mem_map.mp hn
  exact (hplain s hs).isSegment

/-- A scope is looked up under its name exactly when it is written on one line. -/
theorem IsPlain.dropArguments_text_iff (h : s.IsPlain) :
    Scope.dropArguments s.text = s.name ↔ s.OnOneLine := by
  have hline : '\n' ∉ s.name := h.name.not_mem (by decide)
  unfold OnOneLine text
  split
  · rename_i a ha
    rw [Scope.dropArguments_specialized_iff h.name]
    simp [Scope.specialized, hline]
  · exact iff_of_true
      (Scope.readsBack_iff.mp (Scope.readsBack_of_isWord h.name h.noKeyword)).2 hline

theorem IsPlain.dropArguments_name (h : s.IsPlain) : Scope.dropArguments s.name = s.name :=
  h.plain.dropArguments_text_iff.mpr (h.name.not_mem (by decide))

end WrittenScope

namespace Tree

open WrittenScope (text)

variable {t : Tree} {a b item : Item} {name s : Text} {p q start : Position}
  {scopes : List WrittenScope} {f : Text}

theorem resolve_eq_foldlM (hitem : item.qualifiedName = some name) :
    t.resolve p item = (Scope.split name).dropLast.foldlM (t.resolveStep item name) p := by
  unfold resolve
  rw [hitem]
  cases name with
  | nil => rfl
  | cons c rest => rfl

theorem resolveStep_of_ne_nil (hs : s ≠ []) :
    t.resolveStep item name p s =
      match t.scopeBelow? p (Scope.dropArguments s) with
      | some q => .ok q
      | none => .error (.unresolved s name item.declaration item.locations.head?) := by
  cases s with
  | nil => exact absurd rfl hs
  | cons c rest => rfl

/-- On one line each, the scopes lead on as they do without template arguments, up to the same
failure. -/
theorem exists_foldlM_text (hplain : ∀ s ∈ scopes, s.IsPlain) (hline : ∀ s ∈ scopes, s.OnOneLine)
    (start : Position) (a b : Item) (m n : Text) :
    (∃ p, (scopes.map text).foldlM (t.resolveStep a m) start = .ok p ∧
        (scopes.map WrittenScope.name).foldlM (t.resolveStep b n) start = .ok p) ∨
      ∃ front s back q, scopes = front ++ s :: back ∧
        t.ScopeWalk start (front.map text) q ∧
        t.ScopeWalk start (front.map WrittenScope.name) q ∧
        (scopes.map text).foldlM (t.resolveStep a m) start =
          .error (.unresolved s.text m a.declaration a.locations.head?) ∧
        (scopes.map WrittenScope.name).foldlM (t.resolveStep b n) start =
          .error (.unresolved s.name n b.declaration b.locations.head?) := by
  induction scopes generalizing start with
  | nil => exact .inl ⟨start, rfl, rfl⟩
  | cons s scopes ih =>
    rw [List.forall_mem_cons] at hplain hline
    obtain ⟨hs, hplain⟩ := hplain
    have hdrop := hs.dropArguments_text_iff.mpr hline.1
    have hstep : t.resolveStep a m start s.text = _ := resolveStep_of_ne_nil hs.text_ne_nil
    have hstep' : t.resolveStep b n start s.name = _ := resolveStep_of_ne_nil hs.name_ne_nil
    rw [hdrop] at hstep
    rw [hs.dropArguments_name] at hstep'
    simp only [List.map_cons, List.foldlM_cons, hstep, hstep']
    cases hfound : t.scopeBelow? start s.name with
    | none => exact .inr ⟨[], s, scopes, start, rfl, .done _, .done _, rfl, rfl⟩
    | some q =>
      obtain ⟨i, hi, rfl⟩ := scopeBelow?_eq_some.mp hfound
      rcases ih hplain hline.2 (start ++ [i]) with
        hok | ⟨front, s', back, r, rfl, hwalk, hwalk', hfail, hfail'⟩
      · exact .inl hok
      · refine .inr ⟨s :: front, s', back, r, rfl, ?_, ?_, hfail, hfail'⟩
        · exact .descend hs.text_ne_nil (hdrop ▸ hi) hwalk
        · exact .descend hs.name_ne_nil (hs.dropArguments_name.symm ▸ hi) hwalk'

/-- Two ways to one node are under the same keys. -/
theorem ScopeWalk.map_dropArguments_eq {xs ys : List Text} (hx : t.ScopeWalk p xs q)
    (hy : t.ScopeWalk p ys q) (hxs : ∀ s ∈ xs, s ≠ []) (hys : ∀ s ∈ ys, s ≠ []) :
    xs.map Scope.dropArguments = ys.map Scope.dropArguments := by
  induction hx generalizing ys with
  | done p =>
    obtain ⟨r, hr, hlen⟩ := hy.exists_append hys
    obtain rfl : r = [] := by simpa using hr
    rw [List.length_eq_zero_iff.mp hlen.symm]
  | restart => exact absurd rfl (hxs [] (by simp))
  | @descend p q s rest i hs hi h ih =>
    obtain ⟨r, hr, hlen⟩ := h.exists_append fun s hs => hxs s (by simp [hs])
    cases hy with
    | done =>
      have := congrArg List.length hr
      simp at this
    | restart => exact absurd rfl (hys [] (by simp))
    | @descend _ _ s' rest' j hs' hj h' =>
      obtain ⟨r', hr', -⟩ := h'.exists_append fun s hs => hys s (by simp [hs])
      obtain rfl : i = j := by
        have heq := hr.symm.trans hr'
        simp only [List.append_assoc, List.append_cancel_left_eq, List.cons_append,
          List.nil_append, List.cons.injEq] at heq
        exact heq.1
      rw [List.map_cons, List.map_cons, hi.key_unique hj,
        ih h' (fun s hs => hxs s (by simp [hs])) fun s hs => hys s (by simp [hs])]

/-- **When template arguments on scopes do not influence where a name leads.**  Let the scopes be
identifiers, each with properly nested template arguments without the keyword `operator`, or with
none.  If each of them is on one line, the name leads from any node to where it leads without the
template arguments, or both fail at the same scope.  Where the name without template arguments leads
to a node, the other one leads to this node only if each scope is on one line. -/
theorem resolve_text (t : Tree) (start : Position) (hplain : ∀ s ∈ scopes, s.IsPlain)
    (hf : Scope.split f = [f]) (ha : a.qualifiedName = some (qualified (scopes.map text) f))
    (hb : b.qualifiedName = some (qualified (scopes.map WrittenScope.name) f)) :
    ((∀ s ∈ scopes, s.OnOneLine) →
      (∃ p, t.resolve start a = .ok p ∧ t.resolve start b = .ok p) ∨
        ∃ front s back q, scopes = front ++ s :: back ∧
          t.ScopeWalk start (front.map text) q ∧
          t.ScopeWalk start (front.map WrittenScope.name) q ∧
          t.resolve start a = .error (.unresolved s.text (qualified (scopes.map text) f)
            a.declaration a.locations.head?) ∧
          t.resolve start b = .error (.unresolved s.name
            (qualified (scopes.map WrittenScope.name) f) b.declaration b.locations.head?)) ∧
      ∀ p, t.resolve start b = .ok p →
        (t.resolve start a = .ok p ↔ ∀ s ∈ scopes, s.OnOneLine) := by
  have hnames : (scopes.map WrittenScope.plain).map text = scopes.map WrittenScope.name := by
    rw [List.map_map]
    rfl
  have hsplit := WrittenScope.split_qualified_text hplain hf
  have hsplit' : Scope.split (qualified (scopes.map WrittenScope.name) f) =
      scopes.map WrittenScope.name ++ [f] := by
    rw [← hnames]
    refine WrittenScope.split_qualified_text (fun s hs => ?_) hf
    obtain ⟨s', hs', rfl⟩ := List.mem_map.mp hs
    exact (hplain s' hs').plain
  rw [resolve_eq_foldlM ha, resolve_eq_foldlM hb, hsplit, hsplit', List.dropLast_concat,
    List.dropLast_concat]
  have hsame := fun hline => exists_foldlM_text (t := t) hplain hline start a b
    (qualified (scopes.map text) f) (qualified (scopes.map WrittenScope.name) f)
  refine ⟨hsame, fun p hp => ⟨fun hp' => ?_, fun hline => ?_⟩⟩
  · -- both ways are under the same keys, and the plain ones are the names
    have hwalk := (foldlM_resolveStep_eq_ok_iff _ _).mp hp
    have hwalk' := (foldlM_resolveStep_eq_ok_iff _ _).mp hp'
    have hkeys := hwalk'.map_dropArguments_eq hwalk
      (by simpa using fun s hs => (hplain s hs).text_ne_nil)
      (by simpa using fun s hs => (hplain s hs).name_ne_nil)
    rw [List.map_map, List.map_map] at hkeys
    intro s hs
    have hkey := List.map_inj_left.mp hkeys s hs
    exact (hplain s hs).dropArguments_text_iff.mp (hkey.trans (hplain s hs).dropArguments_name)
  · rcases hsame hline with ⟨q, hq, hq'⟩ | ⟨_, _, _, _, _, _, _, _, hfail⟩
    · exact hq.trans (hq'.symm.trans hp)
    · exact absurd (hp.symm.trans hfail) (by simp)

/-- A class inside a namespace, both with template arguments. -/
def annotatedScopes : List WrittenScope :=
  [⟨"Zoo".toList, some "std::map<Key, int>".toList⟩, ⟨"Cat".toList, some []⟩]

/-- A member that is declared with them. -/
def annotatedMember : Item :=
  ({} : Item).declare "void Zoo<std::map<Key, int>>::Cat<>::purr(int times)".toList

theorem resolve_annotatedMember :
    annotatedMember.qualifiedName =
        some (qualified (annotatedScopes.map text) "purr".toList) ∧
      (Session.run Session.nestedClass).tree.resolve [] annotatedMember = .ok [0, 1] := by
  have hplain : ∀ s ∈ annotatedScopes, s.IsPlain := by
    have hkeys : ∀ s ∈ annotatedScopes, IsWord s.name ∧ s.name ≠ Operator.keyword ∧
        ∀ a ∈ s.arguments, Scope.IsNested a ∧ Operator.find? a = none := by
      decide
    exact fun s hs => ⟨(hkeys s hs).1, (hkeys s hs).2.1, (hkeys s hs).2.2⟩
  have hname : annotatedMember.qualifiedName =
      some (qualified (annotatedScopes.map text) "purr".toList) := by
    decide +kernel
  have hresolve : (Session.run Session.nestedClass).tree.resolve [] Session.nestedMember =
      .ok [0, 1] := by
    decide +kernel
  refine ⟨hname, ?_⟩
  exact ((resolve_text (b := Session.nestedMember) _ [] hplain (by decide) hname rfl).2 _
    hresolve).mpr (by decide)

/-- A file with a class template. -/
def container : Tree :=
  (Session.run [.read "a.h".toList ["//! A container.".toList, "class Container;".toList]]).tree

/-- The scope with template arguments that a source wraps over two lines. -/
def wrappedScope : WrittenScope := ⟨"Container".toList, some "int,\n    char".toList⟩

/-- A member that is declared with it. -/
def wrappedMember : Item :=
  ({} : Item).declare "void Container<int,\n    char>::add(int x)".toList

/-- The template arguments are kept, and nothing is found under the name with them. -/
theorem resolve_wrapped :
    (Scope.IsNested "int,\n    char".toList ∧ Operator.find? "int,\n    char".toList = none) ∧
      wrappedMember.qualifiedName = some (qualified [wrappedScope.text] "add".toList) ∧
      (∀ b : Item, b.qualifiedName = some "Container::add".toList →
        container.resolve [] b = .ok [0]) ∧
      container.resolve [] wrappedMember =
        .error (.unresolved wrappedScope.text (qualified [wrappedScope.text] "add".toList)
          wrappedMember.declaration none) := by
  have hb : container.resolve [] { qualifiedName := some "Container::add".toList } = .ok [0] := by
    decide +kernel
  refine ⟨by decide, by decide +kernel, fun b hname => ?_, by decide +kernel⟩
  rw [resolve_eq_ok_iff_scopeWalk] at hb ⊢
  simpa only [Item.scopes, hname] using hb

end Tree

end DocTree
