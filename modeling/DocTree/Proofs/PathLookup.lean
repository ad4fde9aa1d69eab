/-
Scopes by the names along their position.

Looking up a path follows keys, while a reader of the tree sees names.  The two agree in
scopes without a clash:

* `Tree.KeysAlong` — the keys that lead to a position, one scope after the other;
* `Tree.ScopesAlong` — the names of the scopes on the way to a position;
* `Tree.scopesAlong_of_keysAlong`, `Tree.keysAlong_of_scopesAlong` — they are the same where
  children are registered under the keys of their items;
* `Session.find_eq_ok_iff` — so in every session a path leads to a node exactly when it
  lists the names on the way to that node.
-/
import DocTree.CommandLine.Command
import DocTree.Proofs.Session

namespace DocTree

namespace Tree

variable {t node : Tree} {p q : Position} {names : List Text}

/-- The position is found by looking up the keys one after the other. -/
def KeysAlong : Tree → Position → List Text → Prop
  | _, [], [] => True
  | t, i :: p, k :: ks =>
    t.scopeIndex? k = some i ∧ ∃ c, t.children[i]? = some c ∧ c.KeysAlong p ks
  | _, _, _ => False

/-- The nodes on the way to the position, and the node there, are scopes of these names. -/
def ScopesAlong : Tree → Position → List Text → Prop
  | _, [], [] => True
  | t, i :: p, n :: ns =>
    ∃ c, t.children[i]? = some c ∧ c.item.isFunction = false ∧ c.item.name = some n ∧
      c.ScopesAlong p ns
  | _, _, _ => False

instance decidableScopesAlong : ∀ (t : Tree) (p : Position) (ns : List Text),
    Decidable (t.ScopesAlong p ns)
  | _, [], [] => .isTrue trivial
  | _, [], _ :: _ => .isFalse fun h => h
  | _, _ :: _, [] => .isFalse fun h => h
  | t, i :: p, n :: ns =>
    match h : t.children[i]? with
    | none => .isFalse fun ⟨c, hc, _⟩ => by simp [h] at hc
    | some c =>
      have := decidableScopesAlong c p ns
      decidable_of_iff
        (c.item.isFunction = false ∧ c.item.name = some n ∧ c.ScopesAlong p ns) (by
          rw [ScopesAlong, h]
          simp)

/-- The scope under a key is the first child registered under it, unless that is a function. -/
theorem scopeIndex?_eq_some {k : Text} {i : Nat} :
    t.scopeIndex? k = some i ↔
      ∃ e, t.entries[i]? = some e ∧ e.key = some k ∧ e.item.isFunction = false ∧
        ∀ j < i, ∀ d, t.entries[j]? = some d → d.key ≠ some k := by
  have hchild : t.scopeIndex? k = some i ↔
      ∃ c, t.child? k = some (i, c) ∧ c.item.isFunction = false := by
    rw [scopeIndex?, Option.bind_eq_some_iff]
    constructor
    · rintro ⟨⟨j, c⟩, hc, hif⟩
      cases hfun : c.item.isFunction with
      | true => simp [hfun] at hif
      | false =>
        obtain rfl : j = i := by simpa [hfun] using hif
        exact ⟨c, hc, hfun⟩
    · rintro ⟨c, hc, hfun⟩
      exact ⟨(i, c), hc, by simp [hfun]⟩
  rw [hchild]
  constructor
  · rintro ⟨c, hc, hfun⟩
    obtain ⟨hi, hkey, hfirst⟩ := child?_eq_some.mp hc
    refine ⟨c.entry, getElem?_entries_of_child hi, hkey, hfun, fun j hj d hd => ?_⟩
    obtain ⟨c', hc', rfl⟩ := getElem?_entries_eq_some.mp hd
    exact hfirst j hj c' hc'
  · rintro ⟨e, he, hkey, hfun, hfirst⟩
    obtain ⟨c, hi, rfl⟩ := getElem?_entries_eq_some.mp he
    refine ⟨c, child?_eq_some.mpr ⟨hi, hkey, fun j hj d hd => ?_⟩, hfun⟩
    exact hfirst j hj d.entry (getElem?_entries_of_child hd)

/-- On the way to `p`, children are registered under the keys of their items, each under
its own. -/
def RegisteredAlong (t : Tree) (p : Position) : Prop :=
  ∀ q, q <+: p → q ≠ p → ∀ n, t.get? q = some n →
    KeysDistinct n.entries ∧ ∀ e ∈ n.entries, e.key = registeredKey e.item

theorem RegisteredAlong.child {i : Nat} {c : Tree} (h : t.RegisteredAlong (i :: p))
    (hc : t.children[i]? = some c) : c.RegisteredAlong p := by
  intro q hq hne m hm
  refine h (i :: q) (by simpa using hq) (by simpa using hne) m ?_
  rw [get?, hc]
  exact hm

/-- The keys on the way to a position are the names of the scopes there. -/
theorem scopesAlong_of_keysAlong (hreg : t.RegisteredAlong p) (h : t.KeysAlong p names) :
    t.ScopesAlong p names := by
  induction p generalizing t names with
  | nil => cases names <;> exact h
  | cons i p ih =>
    cases names with
    | nil => exact h
    | cons n ns =>
      obtain ⟨hindex, c, hc, hpath⟩ := h
      obtain ⟨-, hown⟩ := hreg [] (List.nil_prefix) (by simp) t (get?_nil t)
      obtain ⟨e, he, hkey, hfun, -⟩ := scopeIndex?_eq_some.mp hindex
      have hentry := getElem?_entries_of_child hc
      obtain rfl := Option.some.inj (hentry.symm.trans he)
      have hreg' := (hown _ (List.mem_of_getElem? hentry)).symm.trans hkey
      exact ⟨c, hc, hfun, name_of_registeredKey hreg' hfun, ih (hreg.child hc) hpath⟩

/-- Scopes with a name are found under it. -/
theorem keysAlong_of_scopesAlong (hreg : t.RegisteredAlong p) (hnames : ∀ n ∈ names, n ≠ [])
    (h : t.ScopesAlong p names) : t.KeysAlong p names := by
  induction p generalizing t names with
  | nil => cases names <;> exact h
  | cons i p ih =>
    cases names with
    | nil => exact h
    | cons n ns =>
      obtain ⟨c, hc, hfun, hname, hpath⟩ := h
      obtain ⟨hkeys, hown⟩ := hreg [] (List.nil_prefix) (by simp) t (get?_nil t)
      have hentry := getElem?_entries_of_child hc
      have hkey : c.key = some n :=
        (hown _ (List.mem_of_getElem? hentry)).trans
          (registeredKey_of_name hfun hname (hnames n (by simp)))
      refine ⟨scopeIndex?_eq_some.mpr ⟨c.entry, hentry, hkey, hfun, ?_⟩, c, hc,
        ih (hreg.child hc) (fun m hm => hnames m (by simp [hm])) hpath⟩
      -- no earlier child can hold the key of this one
      intro j hj d hd hkey'
      have := hkeys hd hentry hkey' hkey
      omega

/-- A walk that looks up one key at each segment ends where the keys lead. -/
theorem foldlM_eq_ok_iff_keysAlong {step : Position → Text → Except Error Position}
    (key : Text → Text) {segments : List Text}
    (hstep : ∀ s ∈ segments, ∀ q r, step q s = .ok r ↔ t.scopeBelow? q (key s) = some r)
    (hq : t.get? q = some node) {r : Position} :
    segments.foldlM step q = .ok r ↔ ∃ p, r = q ++ p ∧ node.KeysAlong p (segments.map key) := by
  induction segments generalizing q node with
  | nil =>
    constructor
    · intro h
      obtain rfl := Except.ok.inj h
      exact ⟨[], by simp, trivial⟩
    · rintro ⟨p, rfl, hp⟩
      cases p with
      | nil => rw [List.append_nil]; rfl
      | cons i p => exact absurd hp (fun h => h)
  | cons s rest ih =>
    have hbelow : ∀ r, step q s = .ok r ↔
        ∃ i, node.scopeIndex? (key s) = some i ∧ r = q ++ [i] := by
      intro r
      rw [hstep s (by simp) q r, scopeBelow?, hq, Option.bind_some, Option.map_eq_some_iff]
      simp only [eq_comm]
    have hrest := fun {q' n'} (hq' : t.get? q' = some n') =>
      ih (fun s' hs' => hstep s' (by simp [hs'])) hq'
    rw [List.foldlM_cons]
    constructor
    · intro h
      obtain ⟨q', hs, h⟩ := bind_eq_ok.mp h
      obtain ⟨i, hi, rfl⟩ := (hbelow q').mp hs
      obtain ⟨e, he, -⟩ := scopeIndex?_eq_some.mp hi
      obtain ⟨c, hc, -⟩ := getElem?_entries_eq_some.mp he
      have hget : t.get? (q ++ [i]) = some c := by simp [get?_append, hq, get?, hc]
      obtain ⟨p, rfl, hp⟩ := (hrest hget).mp h
      exact ⟨i :: p, by simp, hi, c, hc, hp⟩
    · rintro ⟨p, rfl, hp⟩
      cases p with
      | nil => exact absurd hp (fun h => h)
      | cons i p =>
        obtain ⟨hi, c, hc, hp⟩ := hp
        have hget : t.get? (q ++ [i]) = some c := by simp [get?_append, hq, get?, hc]
        exact bind_eq_ok.mpr
          ⟨q ++ [i], (hbelow _).mpr ⟨i, hi, rfl⟩, (hrest hget).mpr ⟨p, by simp, hp⟩⟩

theorem exists_get?_of_keysAlong {keys : List Text} (h : t.KeysAlong p keys) :
    ∃ n, t.get? p = some n := by
  induction p generalizing t keys with
  | nil => exact ⟨t, get?_nil t⟩
  | cons i p ih =>
    cases keys with
    | nil => exact absurd h (fun h => h)
    | cons k ks =>
      obtain ⟨-, c, hc, hrest⟩ := h
      obtain ⟨n, hn⟩ := ih hrest
      exact ⟨n, by rw [get?, hc]; exact hn⟩

/-- A walk that does not fail has a step for each of its segments. -/
theorem exists_step_of_foldlM {step : Position → Text → Except Error Position}
    {segments : List Text} {r : Position} (h : segments.foldlM step q = .ok r) :
    ∀ s ∈ segments, ∃ q' r', step q' s = .ok r' := by
  induction segments generalizing q with
  | nil => simp
  | cons s rest ih =>
    rw [List.foldlM_cons] at h
    obtain ⟨q', hs, h⟩ := bind_eq_ok.mp h
    intro s' hs'
    rcases List.mem_cons.mp hs' with rfl | hs'
    · exact ⟨q, q', hs⟩
    · exact ih h s' hs'

theorem findStep_eq_ok {path s : Text} {r : Position} :
    t.findStep path q s = .ok r ↔ s ≠ [] ∧ t.scopeBelow? q s = some r := by
  unfold findStep
  cases s with
  | nil => simp
  | cons c s =>
    cases t.scopeBelow? q (c :: s) <;> simp

/-- A path leads where its segments, none of them empty, lead as keys. -/
theorem find_eq_ok_iff_keysAlong {path : Text} :
    t.find [] path = .ok p ↔
      (∀ s ∈ path.splitOn '.', s ≠ []) ∧ t.KeysAlong p (path.splitOn '.') := by
  have hwalk : (∀ s ∈ path.splitOn '.', s ≠ []) →
      ((path.splitOn '.').foldlM (t.findStep path) [] = .ok p ↔
        t.KeysAlong p (path.splitOn '.')) := by
    intro hne
    rw [foldlM_eq_ok_iff_keysAlong id ?_ (get?_nil t)]
    · simp
    · intro s hs q r
      rw [findStep_eq_ok]
      exact and_iff_right (hne s hs)
  unfold find
  constructor
  · intro h
    have hne : ∀ s ∈ path.splitOn '.', s ≠ [] := by
      intro s hs
      obtain ⟨q', r', hstep⟩ := exists_step_of_foldlM h s hs
      exact (findStep_eq_ok.mp hstep).1
    exact ⟨hne, (hwalk hne).mp h⟩
  · rintro ⟨hne, hkeys⟩
    exact (hwalk hne).mpr hkeys

end Tree

theorem not_mem_of_mem_splitOn {a : Char} {t s : Text} (h : s ∈ t.splitOn a) : a ∉ s := by
  induction t generalizing s with
  | nil =>
    obtain rfl : s = [] := by simpa using h
    simp
  | cons c rest ih =>
    rw [List.splitOn_cons_eq_if_modifyHead] at h
    by_cases hc : c = a
    · rw [if_pos (by simpa using hc)] at h
      rcases List.mem_cons.mp h with rfl | h
      · simp
      · exact ih h
    · rw [if_neg (by simpa using hc)] at h
      obtain ⟨first, more, hsplit⟩ := List.exists_cons_of_ne_nil (List.splitOn_ne_nil a rest)
      rw [hsplit, List.modifyHead_cons] at h
      rcases List.mem_cons.mp h with rfl | h
      · have hne : a ≠ c := fun heq => hc heq.symm
        simpa [hne] using ih (s := first) (by simp [hsplit])
      · exact ih (by simp [hsplit, h])

namespace Session

/-- A session has a clash where two items placed in one scope have the same key. -/
theorem clashFree_iff {s : Session} :
    s.ClashFree ↔ ∀ a ∈ s.placed, ∀ b ∈ s.placed,
      a.1 = b.1 → a.2.form?.isSome → a.2.form? ≠ b.2.ownName? := by
  constructor
  · rintro h ⟨p, f⟩ hf ⟨q, g⟩ hg rfl hsome heq
    obtain ⟨k, hk⟩ := Option.isSome_iff_exists.mp hsome
    exact h p f g k hf hg hk (heq.symm.trans hk)
  · intro h p f g k hf hg hfk hgk
    exact h (p, f) hf (p, g) hg rfl (by simp [hfk]) (hfk.trans hgk.symm)

instance (s : Session) : Decidable s.ClashFree := decidable_of_iff' _ clashFree_iff

/-- The children on the way to a position are registered under the keys of their items, if
no scope on the way has a clash. -/
theorem registeredAlong_run (actions : List Action) {p : Position}
    (hclash : ∀ q, q <+: p → q ≠ p → ClashFreeAt (run actions).placed q) :
    (run actions).tree.RegisteredAlong p := by
  intro q hq hne n hn
  have h := registered_run actions q n hn (hclash q hq hne)
  exact ⟨h.keys, h.key_eq⟩

/-- **Path lookup is exact.**  In a session without a clash, a path leads to a node exactly
when it lists the names of the scopes on the way to that node, and then the node is what
the program shows for the path. -/
theorem find_eq_ok_iff (actions : List Action) (hclash : (run actions).ClashFree) (path : Text)
    (p : Position) :
    ((run actions).tree.find [] path = .ok p ↔
      ∃ names, names ≠ [] ∧ (∀ n ∈ names, n ≠ [] ∧ '.' ∉ n) ∧
        (run actions).tree.ScopesAlong p names ∧ Text.join ['.'] names = path) ∧
      ((run actions).tree.find [] path = .ok p →
        ∃ node, (run actions).tree.get? p = some node ∧
          CommandLine.print (run actions).tree path .node =
            .ok (CommandLine.linesText [node.toJson.render])) := by
  have hreg := registeredAlong_run actions fun q (_ : q <+: p) (_ : q ≠ p) => hclash q
  constructor
  · rw [Tree.find_eq_ok_iff_keysAlong]
    constructor
    · rintro ⟨hne, hkeys⟩
      refine ⟨path.splitOn '.', List.splitOn_ne_nil _ _, fun n hn => ?_,
        Tree.scopesAlong_of_keysAlong hreg hkeys, List.intercalate_splitOn '.'⟩
      exact ⟨hne n hn, not_mem_of_mem_splitOn hn⟩
    · rintro ⟨names, hnil, hnames, hscopes, rfl⟩
      have hsplit : (Text.join ['.'] names).splitOn '.' = names :=
        List.splitOn_intercalate '.' (fun n hn => (hnames n hn).2) hnil
      have hne : ∀ n ∈ names, n ≠ [] := fun n hn => (hnames n hn).1
      rw [hsplit]
      exact ⟨hne, Tree.keysAlong_of_scopesAlong hreg hne hscopes⟩
  · intro h
    obtain ⟨node, hnode⟩ := Tree.exists_get?_of_keysAlong (Tree.find_eq_ok_iff_keysAlong.mp h).2
    refine ⟨node, hnode, ?_⟩
    simp [CommandLine.print, h, hnode, Except.map]

/-- A file with a class inside a namespace, and one that defines a function of both. -/
def nestedClass : List Action :=
  [.read "zoo.h".toList
    ["//!> The outer scope.".toList, "namespace Zoo".toList, "\x7b".toList,
      "//! A function.".toList, "void feed(int amount = 1);".toList,
      "//! A class.".toList, "class Cat;".toList],
   .read "zoo.cpp".toList ["//! Defined here.".toList, "void Zoo::feed(int amount)".toList]]

theorem clashFree_nestedClass : (run nestedClass).ClashFree := by decide +kernel

/-- The class is found by the names of the scopes on the way to it. -/
theorem find_nested_class :
    (run nestedClass).ClashFree ∧ (run nestedClass).tree.find [] "Zoo.Cat".toList = .ok [0, 1] := by
  refine ⟨clashFree_nestedClass, (find_eq_ok_iff nestedClass clashFree_nestedClass _ _).1.mpr ?_⟩
  exact ⟨["Zoo".toList, "Cat".toList], by decide, by decide, by decide +kernel, by decide⟩

end Session

end DocTree
