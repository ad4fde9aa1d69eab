/-
Overloads.

Functions of different minimal forms have different nodes, whatever is placed between them:

* `Tree.HoldsKey` — a node stands under one key or none, through every placement;
* `overloads_apart` — so functions that differ in the number of their parameters end up as two
  nodes, where all parameters survive;
* `overloads_collide` — and as one node, where a comparison in a default value swallows a
  parameter.
-/
import DocTree.Proofs.History
import DocTree.Proofs.Siblings
import DocTree.Proofs.SurvivingParameters

namespace DocTree

/-! ### Nodes and their keys -/

namespace Tree

variable {t u : Tree} {x : Item} {parent : Position} {k : Text} {i : Nat}

/-- The node at `parent` has a child of index `i`, which it has under no other key than `k`. -/
def HoldsKey (t : Tree) (parent : Position) (i : Nat) (k : Text) : Prop :=
  ∃ F, t.face? parent = some F ∧ i < F.size ∧ ∀ k', F.table k' = some i → k' = k

theorem HoldsKey.exists_get? (h : t.HoldsKey parent i k) :
    ∃ node, t.get? (parent ++ [i]) = some node := by
  obtain ⟨F, hF, hi, -⟩ := h
  obtain ⟨node, hnode, rfl⟩ := exists_get?_of_face? hF
  refine ⟨node.children[i], ?_⟩
  rw [get?_append, hnode, Option.bind_some, get?, List.getElem?_eq_getElem hi]
  exact get?_nil _

/-- The step: whatever is inserted anywhere, a node gets no other key. -/
theorem HoldsKey.insert (h : t.HoldsKey parent i k) (q : Position) (x : Item) :
    (t.insert q x).1.HoldsKey parent i k := by
  obtain ⟨F, hF, hi, hkey⟩ := h
  cases hq : t.get? q with
  | none =>
    have hsame : (t.insert q x).1 = t := by simp [Tree.insert, hq]
    rw [hsame]
    exact ⟨F, hF, hi, hkey⟩
  | some node =>
    rcases insert_cases hq x with ⟨-, hmerged⟩ | ⟨-, happended⟩
    · by_cases hposition : parent = (t.insert q x).2
      · obtain ⟨G, hG, hG'⟩ := hmerged.node
        rw [← hposition] at hG hG'
        obtain rfl := Option.some.inj (hF.symm.trans hG)
        exact ⟨F.merge x, hG', hi, hkey⟩
      · exact ⟨F, (hmerged.frame parent hposition).trans hF, hi, hkey⟩
    · have hfresh : parent ≠ (t.insert q x).2 := by
        intro heq
        rw [heq, happended.fresh] at hF
        exact absurd hF (by simp)
      by_cases hparent : parent = q
      · subst hparent
        obtain ⟨G, hG, -, hG'⟩ := happended.last
        obtain rfl := Option.some.inj (hF.symm.trans hG)
        refine ⟨F.extend x, hG', Nat.lt_succ_of_lt hi, fun k' hk' => ?_⟩
        simp only [Face.extend] at hk'
        split at hk'
        · -- a new key leads to the new child
          have hsize := Option.some.inj hk'
          omega
        · exact hkey k' hk'
      · exact ⟨F, (happended.frame parent hparent hfresh).trans hF, hi, hkey⟩

/-- The run: whatever is placed, a node gets no other key. -/
theorem HoldsKey.placeEach {steps : List (Cursor × Item)} (h : t.HoldsKey parent i k)
    (hsteps : t.placeEach steps = .ok u) : u.HoldsKey parent i k := by
  refine foldlM_keeps (P := fun t : Tree => t.HoldsKey parent i k) ?_ h hsteps
  intro t step t' ht hstep
  obtain ⟨q, x, -, rfl⟩ := insert_of_step hstep
  exact ht.insert q x

/-- An item that has a key lands on a node that stands under this key. -/
theorem exists_holdsKey_insert {node : Tree} (hnode : t.get? parent = some node)
    (hk : registeredKey x = some k) :
    ∃ i, (t.insert parent x).2 = parent ++ [i] ∧ (t.insert parent x).1.HoldsKey parent i k := by
  rcases insert_cases hnode x with ⟨-, hmerged⟩ | ⟨-, happended⟩
  · obtain ⟨F, k', i, hF, hk', hi, hposition⟩ := hmerged.registered
    obtain rfl := Option.some.inj (hk.symm.trans hk')
    obtain rfl := Option.some.inj ((face?_of_get? hnode).symm.trans hF)
    obtain ⟨c, hc, -⟩ := exists_child_of_table hi
    have hframe := hmerged.frame parent (by rw [hposition]; simp)
    refine ⟨i, hposition, node.face, hframe.trans hF, ?_, fun k' hk' => table_injective hk' hi⟩
    exact (List.getElem?_eq_some_iff.mp hc).1
  · obtain ⟨F, hF, hposition, hF'⟩ := happended.last
    obtain rfl := Option.some.inj ((face?_of_get? hnode).symm.trans hF)
    refine ⟨_, hposition, node.face.extend x, hF', Nat.lt_succ_self _, fun k' hk' => ?_⟩
    simp only [Face.extend] at hk'
    split at hk'
    · rename_i hx
      exact Option.some.inj (hx.symm.trans hk)
    · obtain ⟨c, hc, -⟩ := exists_child_of_table hk'
      exact absurd (List.getElem?_eq_some_iff.mp hc).1 (Nat.lt_irrefl _)

/-- An item of another key does not land there. -/
theorem HoldsKey.insert_ne {k' : Text} (h : t.HoldsKey parent i k) (hk : registeredKey x = some k')
    (hne : k' ≠ k) : (t.insert parent x).2 ≠ parent ++ [i] := by
  obtain ⟨F, hF, hi, hkey⟩ := h
  obtain ⟨node, hnode, rfl⟩ := exists_get?_of_face? hF
  intro hposition
  rcases insert_cases hnode x with ⟨-, hmerged⟩ | ⟨-, happended⟩
  · obtain ⟨G, k₁, j, hG, hk₁, hj, hposition'⟩ := hmerged.registered
    obtain rfl := Option.some.inj (hF.symm.trans hG)
    obtain rfl := Option.some.inj (hk.symm.trans hk₁)
    obtain rfl : i = j := by simpa using hposition.symm.trans hposition'
    exact hne (hkey k' hj)
  · obtain ⟨G, hG, hposition', -⟩ := happended.last
    obtain rfl := Option.some.inj (hF.symm.trans hG)
    obtain rfl : i = node.face.size := by simpa using hposition.symm.trans hposition'
    exact Nat.lt_irrefl _ hi

theorem minimal_of_destination {cursor : Cursor} {item : Item} {display : Text}
    (h : t.destination cursor item = .ok (parent, x)) (hdisplay : x.display = some display) :
    x.minimal = some (minimalForm display) := by
  obtain ⟨target, -, -, rfl⟩ := destination_eq_ok_iff.mp h
  exact minimal_settle hdisplay

end Tree

/-! ### Overloads -/

/-- **Overloads are kept apart.**  Let two functions differ in the number of their parameters, with
no parameter behind an open angle group of a default value.  Then their minimal forms differ, and
placed below one parent from one cursor, whatever is placed in between, they end up as two
nodes. -/
theorem overloads_apart {front : Text} (hfront : ∀ c ∈ front, c ∉ Minimal.State.delimiters)
    {ps qs : List Parameter} (hps : ∀ p ∈ ps, p.IsListable) (hqs : ∀ q ∈ qs, q.IsListable)
    (hcount : ps.length ≠ qs.length) (hsurvive : Parameter.surviving 0 ps = ps)
    (hsurvive' : Parameter.surviving 0 qs = qs) :
    minimalForm (signature front ps) ≠ minimalForm (signature front qs) ∧
      ∀ (t u : Tree) (cursor : Cursor) (a b x y : Item) (parent : Position)
        (steps : List (Cursor × Item)) (first second : Placement),
        t.HasCursor cursor →
        t.destination cursor a = .ok (parent, x) → t.place cursor a = .ok first →
        first.tree.placeEach steps = .ok u →
        u.destination cursor b = .ok (parent, y) → u.place cursor b = .ok second →
        x.isFunction = true → x.display = some (signature front ps) →
        y.isFunction = true → y.display = some (signature front qs) →
        first.position ≠ second.position ∧
          (∃ node, second.tree.get? first.position = some node) ∧
          ∃ node, second.tree.get? second.position = some node := by
  have hne : minimalForm (signature front ps) ≠ minimalForm (signature front qs) :=
    minimalForm_signature_ne hfront hps hqs (by rwa [hsurvive, hsurvive'])
  refine ⟨hne, ?_⟩
  intro t u cursor a b x y parent steps first second hcursor hdest hfirst hsteps hdest' hsecond
    hxfun hx hyfun hy
  have hxkey := Tree.registeredKey_of_minimal hxfun (Tree.minimal_of_destination hdest hx)
    (minimalForm_ne_nil hfront _)
  have hykey := Tree.registeredKey_of_minimal hyfun (Tree.minimal_of_destination hdest' hy)
    (minimalForm_ne_nil hfront _)
  obtain ⟨node, hnode⟩ := hcursor.exists_get?_destination hdest
  obtain ⟨parent₁, x₁, hdest₁, htree, hposition, -⟩ := Tree.place_eq_ok_iff.mp hfirst
  obtain ⟨rfl, rfl⟩ := Prod.mk.inj (Except.ok.inj (hdest.symm.trans hdest₁))
  obtain ⟨parent₂, y₁, hdest₂, htree', hposition', -⟩ := Tree.place_eq_ok_iff.mp hsecond
  obtain ⟨rfl, rfl⟩ := Prod.mk.inj (Except.ok.inj (hdest'.symm.trans hdest₂))
  -- the first function has its node under its own key, and keeps it there
  obtain ⟨i, hi, hholds⟩ := Tree.exists_holdsKey_insert hnode hxkey
  rw [← htree] at hholds
  have hkept := hholds.placeEach hsteps
  refine ⟨?_, ?_, ?_⟩
  · rw [hposition, hposition', hi]
    exact (hkept.insert_ne hykey (Ne.symm hne)).symm
  · rw [hposition, hi, htree']
    exact (hkept.insert parent y).exists_get?
  · obtain ⟨F, hF, -⟩ := hkept
    obtain ⟨node', hnode', -⟩ := Tree.exists_get?_of_face? hF
    rw [htree', hposition']
    exact Tree.exists_get?_insert_position hnode' y

/-- A function of these parameters. -/
def overload (ps : List Parameter) : Item where
  kind := some .function
  display := some (signature "void f".toList ps)

/-- Two parameters with default values, of which the last one is a comparison. -/
def twoParameters : List Parameter :=
  [⟨"int a ".toList, some " g(1, 2)".toList⟩, ⟨" bool b ".toList, some " a < 3".toList⟩]

def oneParameter : List Parameter := [⟨"int a".toList, none⟩]

/-- A comparison in the last default value does no harm. -/
theorem overloads_apart_two_one :
    (∀ p ∈ twoParameters, p.IsListable) ∧ Parameter.surviving 0 twoParameters = twoParameters ∧
      minimalForm (signature "void f".toList twoParameters) ≠
        minimalForm (signature "void f".toList oneParameter) ∧
      ∃ first second, Tree.empty.place none (overload twoParameters) = .ok first ∧
        first.tree.place none (overload oneParameter) = .ok second ∧
        first.position ≠ second.position := by
  have hps : ∀ p ∈ twoParameters, p.IsListable := by decide +kernel
  have hqs : ∀ q ∈ oneParameter, q.IsListable := by decide +kernel
  have hsurvive : Parameter.surviving 0 twoParameters = twoParameters :=
    Parameter.surviving_eq_self (by decide +kernel)
  have hfront : ∀ c ∈ "void f".toList, c ∉ Minimal.State.delimiters :=
    List.forall_iff_forall_mem.mp (by decide)
  obtain ⟨hne, hapart⟩ := overloads_apart hfront hps hqs (by decide) hsurvive (by decide)
  refine ⟨hps, hsurvive, hne, ?_⟩
  have hdest : ∀ (t : Tree) (ps : List Parameter), t.destination none (overload ps) = .ok ([],
      { overload ps with minimal := some (minimalForm (signature "void f".toList ps)) }) :=
    fun t ps => rfl
  obtain ⟨first, hfirst, -⟩ := Tree.place_of_destination (hdest .empty twoParameters)
  obtain ⟨second, hsecond, -⟩ := Tree.place_of_destination (hdest first.tree oneParameter)
  refine ⟨first, second, hfirst, hsecond, ?_⟩
  exact (hapart .empty first.tree none _ _ _ _ [] [] first second (fun p hp => by simp at hp)
    (hdest _ _) hfirst rfl (hdest _ _) hsecond rfl rfl rfl rfl).1

/-- A comparison in a default value before the last swallows the parameter behind it, and two
overloads end up as one node. -/
theorem overloads_collide :
    let ps : List Parameter := [⟨"int a ".toList, some " b < c".toList⟩, ⟨" int d".toList, none⟩]
    (∀ p ∈ ps, p.IsListable) ∧ (∀ q ∈ oneParameter, q.IsListable) ∧
      ps.length ≠ oneParameter.length ∧
      signature "void f".toList ps = "void f(int a = b < c, int d)".toList ∧
      minimalForm (signature "void f".toList ps) =
        minimalForm (signature "void f".toList oneParameter) ∧
      (Source.placeAll .empty "a.h".toList
        ["//! A".toList, "void f(int a = b < c, int d);".toList, "//! B".toList,
          "void f(int a);".toList]).outcome.toOption = some [[0], [0]] := by
  decide +kernel

end DocTree
